import Mathlib.Algebra.Group.Int
import Mathlib.Data.Rat.Defs

/-!
# LogFlux.Config — the client and batch configuration (`pkg/config`)

`Config` and `BatchConfig` with the fields the modelled client code reads, the defaults of
`DefaultConfig` and `DefaultBatchConfig`, the API's batch limits, Go's `int32(x)` conversion,
which the circuit breaker applies to its threshold, and the wrap-around of Go's 64-bit `int`.

Durations (`time.Duration`) are integers of nanoseconds; Go `int` fields are integers.  The
`float64` fields `RetryMultiplier` and `JitterPercent` hold the rationals their finite values
are (a `NaN` or infinite setting is left out); `CalculateBackoffDelay` rounds every product as
Go's `float64` does (`LogFlux.Backoff`).  The unused
`FlushInterval`/`BatchSize` of `Config` are left out: no function modelled here reads them.
-/

namespace LogFlux

/-- One second of `time.Duration`. -/
def second : Int := 1000000000

/-- `Config`: connection, retry, async and circuit-breaker settings. -/
structure Config where
  network : String
  address : String
  sharedSecret : String
  timeout : Int
  maxRetries : Int
  retryDelay : Int
  maxRetryDelay : Int
  retryMultiplier : ℚ
  jitterPercent : ℚ
  asyncMode : Bool
  channelBuffer : Int
  circuitBreakerThreshold : Int
  circuitBreakerTimeout : Int
  deriving DecidableEq, Repr

/-- `DefaultSocketPath`. -/
def defaultSocketPath : String := "/tmp/logflux-agent.sock"

/-- `DefaultConfig()`: Unix socket, 10 s timeout, 3 retries with a backoff from 100 ms doubling
up to 5 s and 10% jitter, async mode with a buffer of 1000, a breaker opening after 5 failures
for 30 s.  The jitter is the `float64` nearest to `0.1`. -/
def defaultConfig : Config where
  network := "unix"
  address := defaultSocketPath
  sharedSecret := ""
  timeout := 10 * second
  maxRetries := 3
  retryDelay := second / 10
  maxRetryDelay := 5 * second
  retryMultiplier := 2
  jitterPercent := 3602879701896397 / 36028797018963968
  asyncMode := true
  channelBuffer := 1000
  circuitBreakerThreshold := 5
  circuitBreakerTimeout := 30 * second

/-- `BatchConfig`. -/
structure BatchConfig where
  maxBatchSize : Int
  flushInterval : Int
  autoFlush : Bool
  deriving DecidableEq, Repr

/-- `DefaultBatchConfig()`: batches of 10, flushed every 5 s. -/
def defaultBatchConfig : BatchConfig where
  maxBatchSize := 10
  flushInterval := 5 * second
  autoFlush := true

/-- `MinBatchSize` and `MaxBatchSize`: the API's limits on the entries of a batch.  No code of
the SDK reads them. -/
def minBatchSize : Int := 1

@[inherit_doc minBatchSize]
def maxBatchSize : Int := 100

/-- Go's `int32(x)`: the low 32 bits of `x`, read as a two's-complement integer. -/
def toInt32 (x : Int) : Int := (x + 2 ^ 31) % 2 ^ 32 - 2 ^ 31

/-- Go's `int` (64-bit) arithmetic: the low 64 bits, read as a two's-complement integer. -/
def toInt64 (x : Int) : Int := (x + 2 ^ 63) % 2 ^ 64 - 2 ^ 63

theorem toInt64_of_range {x : Int} (h1 : -2 ^ 63 ≤ x) (h2 : x < 2 ^ 63) : toInt64 x = x := by
  unfold toInt64; omega

theorem toInt64_range (x : Int) : -2 ^ 63 ≤ toInt64 x ∧ toInt64 x < 2 ^ 63 := by
  unfold toInt64; omega

theorem toInt32_of_range {x : Int} (h1 : -2 ^ 31 ≤ x) (h2 : x < 2 ^ 31) : toInt32 x = x := by
  unfold toInt32; omega

theorem toInt32_range (x : Int) : -2 ^ 31 ≤ toInt32 x ∧ toInt32 x < 2 ^ 31 := by
  unfold toInt32; omega

end LogFlux
