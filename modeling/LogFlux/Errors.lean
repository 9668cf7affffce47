/-!
# LogFlux.Errors — the errors of the client package

Every error value the modelled client code returns, with the text Go prints for it.  Errors
of the network environment (a refused dial, a broken pipe) are `net` with their text; the
two the standard library fixes are `useOfClosed` (`net.ErrClosed`) and `deadlineExceeded`
(`context.DeadlineExceeded`).  Wrapped errors (`%w`) keep their cause.
-/

namespace LogFlux

/-- An error value of the client package, or of the network under it. -/
inductive Err where
  | net (msg : String)
  | useOfClosed
  | deadlineExceeded
  | close (network source address : String) (cause : Err)
  | circuitOpen
  | connect (network address : String) (cause : Err)
  | writeDeadline (cause : Err)
  | write (cause : Err)
  | sendExhausted (attempts : Int) (last : Err)
  | sendExhaustedNil (attempts : Int)
  | ping (cause : Err)
  | auth (cause : Err)
  | authNotTcp
  | authNoSecret
  | asyncNotInitialized
  | channelFull
  | shuttingDown
  deriving DecidableEq, Repr

/-- `err.Error()`.  `close` is the `*net.OpError` of `Conn.Close`, which prints the
connection's local address before `->`.  `sendExhaustedNil` is `sendExhausted` wrapping a nil
error, which `%w` prints as `%!w(<nil>)`. -/
def Err.message : Err → String
  | .net msg => msg
  | .useOfClosed => "use of closed network connection"
  | .deadlineExceeded => "context deadline exceeded"
  | .close n s a e => "close " ++ n ++ " " ++ s ++ "->" ++ a ++ ": " ++ e.message
  | .circuitOpen => "circuit breaker is open"
  | .connect n a e => "failed to connect to " ++ n ++ "://" ++ a ++ ": " ++ e.message
  | .writeDeadline e => "failed to set write deadline: " ++ e.message
  | .write e => "failed to write data: " ++ e.message
  | .sendExhausted k e => "failed to send after " ++ toString k ++ " attempts: " ++ e.message
  | .sendExhaustedNil k => "failed to send after " ++ toString k ++ " attempts: %!w(<nil>)"
  | .ping e => "failed to send ping: " ++ e.message
  | .auth e => "failed to send auth request: " ++ e.message
  | .authNotTcp => "authentication only required for TCP connections"
  | .authNoSecret => "shared secret required for TCP authentication"
  | .asyncNotInitialized => "async mode not initialized"
  | .channelFull => "async channel full, dropping log entry"
  | .shuttingDown => "client shutting down"

end LogFlux
