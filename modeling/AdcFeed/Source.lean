import AdcFeed.IoError
import AdcFeed.Text.Bytes

/-!
Where bytes are read from. What arrives is given in advance, step by step; `Delivery.ofSteps` tells
what a reader with a buffer of some size gets of it.
-/

namespace AdcFeed

/-- What meets one read attempt. -/
inductive ReadStep where
  /-- Bytes have arrived; none at all means the end of the stream. -/
  | arrive (bytes : Bytes)
  /-- Nothing yet; the attempt is to be repeated. -/
  | pending
  | fail (error : IoError)
  deriving DecidableEq, Repr

/-- Everything a reader gets: chunks of at least one byte, then the end or a failure. -/
structure Delivery where
  chunks : List Bytes := []
  error : Option IoError := none
  deriving DecidableEq, Repr

/-- Cuts bytes into pieces of `size + 1` bytes, the last one maybe shorter. -/
def pieces (size : Nat) (bs : Bytes) : List Bytes :=
  if bs.isEmpty then [] else bs.take (size + 1) :: pieces size (bs.drop (size + 1))
termination_by bs.length
decreasing_by
  rename_i h
  have := List.length_pos_iff.2 (fun e => h (List.isEmpty_iff.2 e))
  simp only [List.length_drop]
  omega

/--
What a reader gets whose buffer holds `chunkSize` bytes, at least one. Bytes that arrive together
and do not fit are read in pieces; beyond the last step the stream is at its end.
-/
def Delivery.ofSteps (chunkSize : Nat) : List ReadStep → Delivery
  | [] => {}
  | .pending :: steps => Delivery.ofSteps chunkSize steps
  | .fail error :: _ => { error := some error }
  | .arrive bytes :: steps =>
    if bytes.isEmpty then {}
    else
      let later := Delivery.ofSteps chunkSize steps
      { later with chunks := pieces (chunkSize - 1) bytes ++ later.chunks }

end AdcFeed
