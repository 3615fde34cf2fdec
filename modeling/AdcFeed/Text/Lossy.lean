import AdcFeed.Text.Bytes

/-!
Bytes shown as text whatever they are: each sequence that is cut short or spells no character is
shown as one replacement character.
-/

namespace AdcFeed

/-- Whether the byte continues a character. -/
def isContinuation (b : UInt8) : Bool := 0x80 ≤ b && b ≤ 0xBF

/-- Whether the second byte of a character of three or four bytes may follow the first. -/
def isSecondByte (first second : UInt8) : Bool :=
  if first = 0xE0 then 0xA0 ≤ second && second ≤ 0xBF
  else if first = 0xED then 0x80 ≤ second && second ≤ 0x9F
  else if first = 0xF0 then 0x90 ≤ second && second ≤ 0xBF
  else if first = 0xF4 then 0x80 ≤ second && second ≤ 0x8F
  else isContinuation second

/-- How many bytes a character has that starts with this byte; zero if none does. -/
def characterSize (first : UInt8) : Nat :=
  if first ≤ 0x7F then 1
  else if 0xC2 ≤ first && first ≤ 0xDF then 2
  else if 0xE0 ≤ first && first ≤ 0xEF then 3
  else if 0xF0 ≤ first && first ≤ 0xF4 then 4
  else 0

/-- How many bytes after the first belong to a character that starts with it, up to where the bytes
stop fitting. -/
def fittingBytes (first : UInt8) (bs : Bytes) : Nat :=
  match bs.take (characterSize first - 1) with
  | [] => 0
  | second :: more =>
    if isSecondByte first second then 1 + (more.takeWhile isContinuation).length else 0

/-- The characters of the bytes, with replacement characters for what spells none. -/
def lossyPieces : Bytes → List String
  | [] => []
  | first :: bs =>
    let fitting := fittingBytes first bs
    (decodeText? (first :: bs.take fitting)).getD "\uFFFD" :: lossyPieces (bs.drop fitting)
termination_by bs => bs.length
decreasing_by simp only [List.length_drop, List.length_cons]; omega

/-- The text of the bytes with replacement characters for what spells none. -/
def lossyText (bs : Bytes) : String := String.join (lossyPieces bs)

end AdcFeed
