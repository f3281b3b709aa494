/-!
A seeded stream of random words: the ChaCha block function with twelve rounds, a 64-bit block
counter from zero and no nonce. The key is expanded from a 64-bit seed by a multiplicative generator
whose outputs are permuted.
-/
namespace TensorBench.Random

def rotateLeft (x n : UInt32) : UInt32 := (x <<< n) ||| (x >>> (32 - n))

def rotateRight (x n : UInt32) : UInt32 := (x >>> n) ||| (x <<< ((32 - n) % 32))

/-! ### Expansion of the seed -/

def advance (state : UInt64) : UInt64 :=
  state * 6364136223846793005 + 11634580027462260723

/-- A word of a generator state: folded, then rotated by its topmost bits. -/
def permuted (state : UInt64) : UInt32 :=
  rotateRight (((state >>> 18) ^^^ state) >>> 27).toUInt32 (state >>> 59).toUInt32

/-- The first words of the generator from a state on. -/
def expand (state : UInt64) : Nat → List UInt32
  | 0 => []
  | count + 1 => permuted (advance state) :: expand (advance state) count

/-! ### The block function -/

/-- Sixteen words in four rows. -/
abbrev Block := Array UInt32

def word (block : Block) (i : Nat) : UInt32 := block.getD i 0

def quarterRound (block : Block) (a b c d : Nat) : Block :=
  let block := block.setIfInBounds a (word block a + word block b)
  let block := block.setIfInBounds d (rotateLeft (word block d ^^^ word block a) 16)
  let block := block.setIfInBounds c (word block c + word block d)
  let block := block.setIfInBounds b (rotateLeft (word block b ^^^ word block c) 12)
  let block := block.setIfInBounds a (word block a + word block b)
  let block := block.setIfInBounds d (rotateLeft (word block d ^^^ word block a) 8)
  let block := block.setIfInBounds c (word block c + word block d)
  block.setIfInBounds b (rotateLeft (word block b ^^^ word block c) 7)

/-- Four columns, then four diagonals. -/
def doubleRound (block : Block) : Block :=
  [(0, 4, 8, 12), (1, 5, 9, 13), (2, 6, 10, 14), (3, 7, 11, 15),
    (0, 5, 10, 15), (1, 6, 11, 12), (2, 7, 8, 13), (3, 4, 9, 14)].foldl
      (fun block (a, b, c, d) => quarterRound block a b c d) block

/-- The text "expand 32-byte k" in words. -/
def constants : List UInt32 := [0x61707865, 0x3320646e, 0x79622d32, 0x6b206574]

def initialBlock (key : List UInt32) (counter : UInt64) : Block :=
  (constants ++ key ++ [counter.toUInt32, (counter >>> 32).toUInt32, 0, 0]).toArray

/-- Six double rounds added to the block they started from. -/
def keyBlock (key : List UInt32) (counter : UInt64) : List UInt32 :=
  let start := initialBlock key counter
  let mixed := (List.range 6).foldl (fun block _ => doubleRound block) start
  List.zipWith (· + ·) mixed.toList start.toList

/-- A stream: its key, the number of the next block, and the words left of the last one. -/
structure KeyStream where
  key : List UInt32
  counter : UInt64
  pending : List UInt32
deriving DecidableEq, Inhabited

namespace KeyStream

def ofSeed (seed : UInt64) : KeyStream := ⟨expand seed 8, 0, []⟩

def next (stream : KeyStream) : UInt32 × KeyStream :=
  match stream.pending with
  | word :: rest => (word, { stream with pending := rest })
  | [] =>
      match keyBlock stream.key stream.counter with
      | word :: rest => (word, ⟨stream.key, stream.counter + 1, rest⟩)
      | [] => (0, stream)

end KeyStream

end TensorBench.Random
