import AdcFeed.IoError
import AdcFeed.Net.Address

/-!
What ends a run before its time.
-/

namespace AdcFeed

/-- A step of a run that failed, and why. -/
inductive Failure where
  | connect (server : Endpoint) (cause : IoError)
  /-- A reading could not be sent, after so many that were. -/
  | send (sent : Nat) (cause : IoError)
  | listen (endpoint : Endpoint) (cause : IoError)
  | accept (cause : IoError)
  | read (cause : IoError)
  | output (cause : IoError)
  deriving DecidableEq

namespace Failure

/-- Why the step failed. -/
def cause : Failure → IoError
  | .connect _ cause | .send _ cause | .listen _ cause | .accept cause | .read cause
  | .output cause => cause

/-- The failure in words. -/
def message (f : Failure) : String :=
  let step :=
    match f with
    | .connect server _ => "failed to connect to server at " ++ server.text
    | .send sent _ => "send failed after " ++ toString sent ++ " readings"
    | .listen endpoint _ => "failed to listen on " ++ endpoint.text
    | .accept _ => "accept failed"
    | .read _ => "read from client failed"
    | .output _ => "writing echo output failed"
  step ++ ": " ++ f.cause.text

end Failure

end AdcFeed
