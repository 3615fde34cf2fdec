/-!
The endless stream of 32-bit words that belongs to a seed: a key stretched from the seed drives the
ChaCha block function with twelve rounds, block after block.
-/

namespace AdcFeed

/-- The key of a word stream. -/
abbrev WordKey := Vector UInt32 8

/-- Sixteen words, as the block function works on them. -/
abbrev WordBlock := Vector UInt32 16

/-- Rotates the bits of a word to the left. -/
def rotateLeft (w n : UInt32) : UInt32 := (w <<< n) ||| (w >>> (32 - n))

/-- Rotates the bits of a word to the right; by a multiple of 32 it stays as it is. -/
def rotateRight (w n : UInt32) : UInt32 := (w >>> n) ||| (w <<< (32 - n))

/-- One step of the generator that stretches a seed. -/
def nextSeedState (state : UInt64) : UInt64 :=
  state * 6364136223846793005 + 11634580027462260723

/-- The word that a state of that generator yields: its upper bits mixed, then rotated by the
topmost five. -/
def seedWord (state : UInt64) : UInt32 :=
  rotateRight (((state >>> 18) ^^^ state) >>> 27).toUInt32 (state >>> 59).toUInt32

/-- The key stretched from a seed: the words of the eight states that follow it. -/
def WordKey.ofSeed (seed : UInt64) : WordKey :=
  Vector.ofFn fun i => seedWord (Nat.repeat nextSeedState (i + 1) seed)

/-- Mixes four words of a block. -/
def quarterRound (a b c d : Fin 16) (s : WordBlock) : WordBlock :=
  let mix (x y z : Fin 16) (n : UInt32) (s : WordBlock) : WordBlock :=
    let s := s.set x (s[x] + s[y])
    s.set z (rotateLeft (s[z] ^^^ s[x]) n)
  mix c d b 7 (mix a b d 8 (mix c d b 12 (mix a b d 16 s)))

/-- Mixes the columns of a block and then its diagonals. -/
def doubleRound (s : WordBlock) : WordBlock :=
  let s := quarterRound 0 4 8 12 s
  let s := quarterRound 1 5 9 13 s
  let s := quarterRound 2 6 10 14 s
  let s := quarterRound 3 7 11 15 s
  let s := quarterRound 0 5 10 15 s
  let s := quarterRound 1 6 11 12 s
  let s := quarterRound 2 7 8 13 s
  quarterRound 3 4 9 14 s

/-- What the block function starts from: four fixed words, the key, the block's number in two words,
low word first, and two zeros. -/
def startBlock (key : WordKey) (number : UInt64) : WordBlock :=
  #v[0x61707865, 0x3320646e, 0x79622d32, 0x6b206574,
    key[0], key[1], key[2], key[3], key[4], key[5], key[6], key[7],
    number.toUInt32, (number >>> 32).toUInt32, 0, 0]

/-- The block with a number: the start mixed in twelve rounds and added to itself. -/
def wordBlock (key : WordKey) (number : UInt64) : WordBlock :=
  let start := startBlock key number
  Vector.zipWith (· + ·) start (Nat.repeat doubleRound 6 start)

/-- The word with an index, counted from zero, in the stream of a key. -/
def WordKey.word (key : WordKey) (index : Nat) : UInt32 :=
  (wordBlock key (UInt64.ofNat (index / 16)))[index % 16]

/-- How many words there are before the stream starts again: sixteen for each block number. -/
def wordPeriod : Nat := 16 <<< 64

end AdcFeed
