import LogFlux.Config
import LogFlux.Errors
import LogFlux.Breaker
import LogFlux.BreakerRace
import LogFlux.Batch
import LogFlux.BatchTimers
import LogFlux.Client
import LogFlux.Dispatch
import LogFlux.Shutdown
import LogFlux.Types
import LogFlux.Json.Encode
import LogFlux.Json.Decode
import LogFlux.Wire
import LogFlux.Float64
import LogFlux.Backoff
import LogFlux.Retry
import LogFlux.Entry
import LogFlux.Integrations.Slog
import LogFlux.Integrations.Zap
import LogFlux.Integrations.Logrus
import LogFlux.Integrations.Zerolog
import LogFlux.Pipeline
import LogFlux.BreakerBridge
import LogFlux.Address
