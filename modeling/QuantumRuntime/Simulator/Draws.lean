/-
  This file defines the stream of draws that belongs to a seed:
  numbers in the unit interval, each a multiple of `2 ^ (-53)`,
  taken from a stream cipher with twelve rounds whose key is
  grown from the seed.

  Key definitions include:
    * `Draws`
    * `DrawSource`
    * `Draws.seeded`
    * `DrawSource.cipher`
    * `Cipher.block`
    * `Cipher.keyOfSeed`
-/

namespace QuantumRuntime

/- A stream gives the draw with each number. -/
abbrev Draws (R : Type) :=
  Nat → R

/-
  Where simulators take their streams from: the stream of each
  seed, and one for simulators without a seed.
-/
structure DrawSource (R : Type) where
  seeded : Nat → Draws R
  unseeded : Draws R

namespace Cipher

------------------------------------------------------------
-- Blocks
------------------------------------------------------------

/- A block holds sixteen words. -/
abbrev Block :=
  Vector UInt32 16

/- Turn the bits of a word to the left. -/
def rotateLeft
    (x : UInt32)
    (count : UInt32) : UInt32 :=
  (x <<< count) ||| (x >>> (32 - count))

/- Mix four words of a block. -/
def quarterRound
    (a b c d : Fin 16)
    (s : Block) : Block :=
  let s := s.set a (s[a] + s[b])
  let s := s.set d (rotateLeft (s[d] ^^^ s[a]) 16)
  let s := s.set c (s[c] + s[d])
  let s := s.set b (rotateLeft (s[b] ^^^ s[c]) 12)
  let s := s.set a (s[a] + s[b])
  let s := s.set d (rotateLeft (s[d] ^^^ s[a]) 8)
  let s := s.set c (s[c] + s[d])
  s.set b (rotateLeft (s[b] ^^^ s[c]) 7)

/- One round on the columns and one on the diagonals. -/
def doubleRound
    (s : Block) : Block :=
  let s := quarterRound 0 4 8 12 s
  let s := quarterRound 1 5 9 13 s
  let s := quarterRound 2 6 10 14 s
  let s := quarterRound 3 7 11 15 s
  let s := quarterRound 0 5 10 15 s
  let s := quarterRound 1 6 11 12 s
  let s := quarterRound 2 7 8 13 s
  quarterRound 3 4 9 14 s

/- The block that a key and a block number start from. -/
def initial
    (key : Vector UInt32 8)
    (counter : UInt64) : Block :=
  #v[0x61707865, 0x3320646e, 0x79622d32, 0x6b206574,
    key[0], key[1], key[2], key[3],
    key[4], key[5], key[6], key[7],
    counter.toUInt32, (counter >>> 32).toUInt32, 0, 0]

/- The block of output words with a number. -/
def block
    (key : Vector UInt32 8)
    (counter : UInt64) : Block :=
  let start := initial key counter
  let mixed := Nat.repeat doubleRound 6 start
  Vector.zipWith (· + ·) mixed start

------------------------------------------------------------
-- Keys
------------------------------------------------------------

/- The next state of the generator that grows a key. -/
def advance
    (state : UInt64) : UInt64 :=
  state * 6364136223846793005 + 11634580027462260723

/- The word that a state of the generator stands for. -/
def keyWord
    (state : UInt64) : UInt32 :=
  let mixed := (((state >>> 18) ^^^ state) >>> 27).toUInt32
  let turn := (state >>> 59).toUInt32
  (mixed >>> turn) ||| (mixed <<< ((32 - turn) &&& 31))

/- The key of a seed: the words of the next eight states. -/
def keyOfSeed
    (seed : UInt64) : Vector UInt32 8 :=
  Vector.ofFn fun i => keyWord (Nat.repeat advance (i.val + 1) seed)

end Cipher

------------------------------------------------------------
-- Draws
------------------------------------------------------------

namespace Draws

/- The draw that a pair of words stands for, low word first. -/
def ofWords
    (low high : UInt32) : Float :=
  let word := low.toUInt64 ||| (high.toUInt64 <<< 32)
  (word >>> 11).toFloat * (1.0 / 9007199254740992.0)

/-
  The stream of a seed. Draw `n` takes the words `2 n` and
  `2 n + 1`, and a block holds the words of eight draws.
-/
def seeded
    (seed : UInt64) : Draws Float :=
  let key := Cipher.keyOfSeed seed
  fun n =>
    let words := Cipher.block key (n / 8).toUInt64
    let pair : Fin 8 := Fin.ofNat 8 n
    ofWords words[2 * pair.val] words[2 * pair.val + 1]

end Draws

namespace DrawSource

/-
  The source that uses the cipher. Without a seed any stream
  will do, and it is the stream of the seed zero.
-/
def cipher : DrawSource Float :=
  { seeded := fun seed => Draws.seeded seed.toUInt64
    unseeded := Draws.seeded 0 }

end DrawSource

end QuantumRuntime
