/-
The stream of numbers behind `$random`.  A seed is spread over the key of the ChaCha stream cipher,
and each number is made of the next 64 bits that the cipher gives.

The number of rounds of a block is left open.  Its sixteen words stand in four columns of four, and
a round mixes each column and then each diagonal.
-/
import Amend.Binary64.Basic

namespace Amend
namespace Random

/-! ## Blocks of the cipher -/

/-- Four words of a block, from top to bottom. -/
structure Column where
  a : UInt32
  b : UInt32
  c : UInt32
  d : UInt32
deriving DecidableEq

/-- The four columns of a block, from left to right. -/
structure Block where
  w : Column
  x : Column
  y : Column
  z : Column
deriving DecidableEq

def rotateLeft (n : UInt32) (bits : UInt32) : UInt32 := (n <<< bits) ||| (n >>> (32 - bits))

namespace Column

/-- Mixes the words of one column. -/
def mix (s : Column) : Column :=
  let a := s.a + s.b
  let d := rotateLeft (s.d ^^^ a) 16
  let c := s.c + d
  let b := rotateLeft (s.b ^^^ c) 12
  let a := a + b
  let d := rotateLeft (d ^^^ a) 8
  let c := c + d
  let b := rotateLeft (b ^^^ c) 7
  ⟨a, b, c, d⟩

def add (s t : Column) : Column := ⟨s.a + t.a, s.b + t.b, s.c + t.c, s.d + t.d⟩

end Column

namespace Block

def map (f : Column → Column) (s : Block) : Block := ⟨f s.w, f s.x, f s.y, f s.z⟩

/-- The diagonals as columns. -/
def skew (s : Block) : Block :=
  ⟨⟨s.w.a, s.x.b, s.y.c, s.z.d⟩, ⟨s.x.a, s.y.b, s.z.c, s.w.d⟩,
    ⟨s.y.a, s.z.b, s.w.c, s.x.d⟩, ⟨s.z.a, s.w.b, s.x.c, s.y.d⟩⟩

/-- The block whose diagonals are the columns. -/
def unskew (s : Block) : Block :=
  ⟨⟨s.w.a, s.z.b, s.y.c, s.x.d⟩, ⟨s.x.a, s.w.b, s.z.c, s.y.d⟩,
    ⟨s.y.a, s.x.b, s.w.c, s.z.d⟩, ⟨s.z.a, s.y.b, s.x.c, s.w.d⟩⟩

theorem unskew_skew (s : Block) : s.skew.unskew = s := rfl

def doubleRound (s : Block) : Block := unskew ((skew (s.map .mix)).map .mix)

def rounds : Nat → Block → Block
  | 0, s => s
  | n + 1, s => rounds n s.doubleRound

def add (s t : Block) : Block := ⟨s.w.add t.w, s.x.add t.x, s.y.add t.y, s.z.add t.z⟩

/-- The words row by row. -/
def toList (s : Block) : List UInt32 :=
  [s.w.a, s.x.a, s.y.a, s.z.a, s.w.b, s.x.b, s.y.b, s.z.b,
    s.w.c, s.x.c, s.y.c, s.z.c, s.w.d, s.x.d, s.y.d, s.z.d]

end Block

/-! ## The stream -/

/-- The key of the cipher, and how many numbers have been drawn. -/
structure Stream where
  key : List UInt32
  drawn : Nat
deriving DecidableEq

namespace Stream

/-- The next state of the generator that spreads a seed. -/
def nextState (state : UInt64) : UInt64 := state * 6364136223846793005 + 11634580027462260723

/-- The word that belongs to a state: its upper bits, mixed and rotated by the topmost ones. -/
def wordOf (state : UInt64) : UInt32 :=
  let mixed := (((state >>> 18) ^^^ state) >>> 27).toUInt32
  let turn := (state >>> 59).toUInt32
  (mixed >>> turn) ||| (mixed <<< (32 - turn))

/-- The words of the states after a state. -/
def spread : Nat → UInt64 → List UInt32
  | 0, _ => []
  | n + 1, state => wordOf (nextState state) :: spread n (nextState state)

def ofSeed (seed : Nat) : Stream := ⟨spread 8 (UInt64.ofNat seed), 0⟩

def keyWord (s : Stream) (i : Nat) : UInt32 := s.key.getD i 0

/-- What the cipher starts from for the block with a number. -/
def start (s : Stream) (block : Nat) : Block :=
  ⟨⟨0x61707865, s.keyWord 0, s.keyWord 4, UInt32.ofNat block⟩,
    ⟨0x3320646e, s.keyWord 1, s.keyWord 5, UInt32.ofNat (block / 0x100000000)⟩,
    ⟨0x79622d32, s.keyWord 2, s.keyWord 6, 0⟩,
    ⟨0x6b206574, s.keyWord 3, s.keyWord 7, 0⟩⟩

/-- The words of the block with a number, after twelve rounds. -/
def words (s : Stream) (block : Nat) : List UInt32 :=
  ((s.start block).add ((s.start block).rounds 6)).toList

/-- The next 64 bits: two words, the lower one first. -/
def bits (s : Stream) : Nat :=
  let words := s.words (s.drawn / 8)
  let i := 2 * (s.drawn % 8)
  (words.getD i 0).toNat + 0x100000000 * (words.getD (i + 1) 0).toNat

/-- The next number, a multiple of `2 ^ -53` from zero up to, but not including, one. -/
def head (s : Stream) : Binary64 := .ofRatio false (s.bits / 2048) 0x20000000000000

/-- The stream behind the next number. -/
def tail (s : Stream) : Stream := { s with drawn := s.drawn + 1 }

end Stream
end Random
end Amend
