/-!
# The random stream

A seed is stretched to a key of eight words, and the key stands for an endless stream of words: the
blocks of a ChaCha cipher of eight rounds, numbered from zero, one after the other.

## Shape of the generator

`Generator` keeps the key, the number of the next block and the words of the current block that were
not drawn yet. `word` draws the next word, and all other draws are made of it.
-/

namespace Fixtures.Random

/-- Turns a word to the left. -/
def rotateLeft (x : UInt32) (n : UInt32) : UInt32 := (x <<< n) ||| (x >>> (32 - n))

/-- The sixteen words of a block. -/
abbrev Block := Vector UInt32 16

/-- One addition, one exclusive or and one turn: adds word `b` to word `a` and mixes the sum into
word `d`. -/
def mix (s : Block) (a b d : Fin 16) (n : UInt32) : Block :=
  let s := s.set a (s[a] + s[b])
  s.set d (rotateLeft (s[d] ^^^ s[a]) n)

/-- Mixes four words of a block with each other. -/
def quarterRound (s : Block) (a b c d : Fin 16) : Block :=
  mix (mix (mix (mix s a b d 16) c d b 12) a b d 8) c d b 7

/-- One round over the columns of a block and one over its diagonals. -/
def doubleRound (s : Block) : Block :=
  let s := quarterRound s 0 4 8 12
  let s := quarterRound s 1 5 9 13
  let s := quarterRound s 2 6 10 14
  let s := quarterRound s 3 7 11 15
  let s := quarterRound s 0 5 10 15
  let s := quarterRound s 1 6 11 12
  let s := quarterRound s 2 7 8 13
  quarterRound s 3 4 9 14

/-- The number of double rounds of the cipher. -/
def doubleRounds : Nat := 4

/-- Eight words of key. -/
abbrev Key := Vector UInt32 8

/-- The block before mixing: the constant of the cipher, the key, the block number and no nonce. -/
def startBlock (key : Key) (number : UInt64) : Block :=
  #v[0x61707865, 0x3320646e, 0x79622d32, 0x6b206574,
    key[0], key[1], key[2], key[3], key[4], key[5], key[6], key[7],
    number.toUInt32, (number >>> 32).toUInt32, 0, 0]

/-- A block of the stream. -/
def block (key : Key) (number : UInt64) : Block :=
  let start := startBlock key number
  let mixed := (List.range doubleRounds).foldl (fun s _ => doubleRound s) start
  Vector.zipWith (· + ·) mixed start

/-- The next state of the sequence that stretches a seed. -/
def stretch (state : UInt64) : UInt64 := state * 6364136223846793005 + 11634580027462260723

/-- The word of a state of this sequence. -/
def stretchedWord (state : UInt64) : UInt32 :=
  let x := (((state >>> 18) ^^^ state) >>> 27).toUInt32
  let turn := (state >>> 59).toUInt32
  (x >>> turn) ||| (x <<< ((32 - turn) % 32))

/-- The words that a seed is stretched to. -/
def stretchSeed : (count : Nat) → UInt64 → List UInt32
  | 0, _ => []
  | count + 1, state => stretchedWord (stretch state) :: stretchSeed count (stretch state)

theorem length_stretchSeed (count : Nat) (state : UInt64) :
    (stretchSeed count state).length = count := by
  induction count generalizing state with
  | zero => rfl
  | succ n ih => simp [stretchSeed, ih]

/-- The key that a seed is stretched to. -/
def keyOf (seed : UInt64) : Key :=
  ⟨(stretchSeed 8 seed).toArray, by simp [length_stretchSeed]⟩

/-- A place in a random stream. -/
structure Generator where
  key : Key
  next : UInt64
  pending : List UInt32
  deriving DecidableEq

namespace Generator

/-- The start of the stream of a seed. -/
def ofSeed (seed : UInt64) : Generator := ⟨keyOf seed, 0, []⟩

/-- Draws a word. -/
def word (g : Generator) : UInt32 × Generator :=
  match g.pending with
  | w :: rest => (w, { g with pending := rest })
  | [] =>
    match (block g.key g.next).toList with
    | w :: rest => (w, ⟨g.key, g.next + 1, rest⟩)
    | [] => (0, g)

end Generator

/-- A computation that draws from the stream. -/
abbrev Draw (α : Type) := StateM Generator α

/-- Draws 32 bits. -/
def word32 : Draw UInt32 := Generator.word

/-- Draws 64 bits, the low word first. -/
def word64 : Draw UInt64 := do
  let low ← word32
  let high ← word32
  pure (low.toUInt64 ||| (high.toUInt64 <<< 32))

/-- The generator of a type of documents: its seed is the run's seed mixed with the bytes of a key. -/
def mixSeed (seed : UInt64) (key : String) : UInt64 :=
  key.toUTF8.toList.foldl (fun h b => (h ^^^ b.toUInt64) * 0x100000001b3) (seed ^^^ 0xcbf29ce484222325)

end Fixtures.Random
