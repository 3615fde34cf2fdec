/-!
Failures of reading, writing and connecting.
-/

namespace AdcFeed

/-- What went wrong with a transfer. -/
inductive IoErrorKind where
  | brokenPipe
  | connectionReset
  | connectionAborted
  | connectionRefused
  | timedOut
  | interrupted
  | unexpectedEof
  | permissionDenied
  | addrInUse
  | addrNotAvailable
  | networkUnreachable
  | writeZero
  | invalidData
  | invalidInput
  | uncategorized
  | other
  deriving DecidableEq, Repr

/-- The kind in words. -/
def IoErrorKind.text : IoErrorKind → String
  | .brokenPipe => "broken pipe"
  | .connectionReset => "connection reset"
  | .connectionAborted => "connection aborted"
  | .connectionRefused => "connection refused"
  | .timedOut => "timed out"
  | .interrupted => "operation interrupted"
  | .unexpectedEof => "unexpected end of file"
  | .permissionDenied => "permission denied"
  | .addrInUse => "address in use"
  | .addrNotAvailable => "address not available"
  | .networkUnreachable => "network unreachable"
  | .writeZero => "write zero"
  | .invalidData => "invalid data"
  | .invalidInput => "invalid input parameter"
  | .uncategorized => "uncategorized error"
  | .other => "other error"

/-- A failure and what is said about it. -/
structure IoError where
  kind : IoErrorKind
  text : String := kind.text
  deriving DecidableEq, Repr

end AdcFeed
