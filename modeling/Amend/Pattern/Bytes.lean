/-
Characters as the bytes of UTF-8, and ranges of characters as sequences of byte ranges.
-/
import Amend.Unicode.Ranges

namespace Amend
namespace Pattern
namespace Bytes

open Unicode (Ranges)

/-- The number of bytes of a character. -/
def length (n : Nat) : Nat :=
  if n < 0x80 then 1 else if n < 0x800 then 2 else if n < 0x10000 then 3 else 4

/-- The bytes of a character. -/
def ofCode (n : Nat) : List Nat :=
  match length n with
  | 1 => [n]
  | 2 => [0xC0 + n / 64, 0x80 + n % 64]
  | 3 => [0xE0 + n / 4096, 0x80 + n / 64 % 64, 0x80 + n % 64]
  | _ => [0xF0 + n / 262144, 0x80 + n / 4096 % 64, 0x80 + n / 64 % 64, 0x80 + n % 64]

/-- Ranges of bytes, one for each place of a sequence. -/
abbrev Sequence := List (Nat × Nat)

/-- The last character of the first part of a range that has to be divided for its bytes to vary
independently. -/
def divide? (first last : Nat) : Option Nat :=
  if first < 0xE000 ∧ 0xD7FF < last then some 0xD7FF
  else match [0x7F, 0x7FF, 0xFFFF].find? fun limit => decide (first ≤ limit ∧ limit < last) with
    | some limit => some limit
    | none =>
      if last ≤ 0x7F then none
      else [64, 4096, 262144].findSome? fun block =>
        if first / block = last / block then none
        else if first % block ≠ 0 then some (first / block * block + (block - 1))
        else if last % block ≠ block - 1 then some (last / block * block - 1)
        else none

/-- The sequences that make up a range, in order.  A range is divided fewer than 64 times in a
row. -/
def split : Nat → Nat → Nat → List Sequence
  | 0, _, _ => []
  | fuel + 1, first, last =>
    if last < first then []
    else match divide? first last with
      | some middle =>
        split fuel first middle
          ++ split fuel (if middle = 0xD7FF then 0xE000 else middle + 1) last
      | none => [(ofCode first).zip (ofCode last)]

/-- The sequences of a set in order. -/
def sequences (set : Ranges) : List Sequence := set.flatMap fun r => split 64 r.1 r.2

/-- Neighbours with the same first range, by what follows it. -/
def byFirst : List Sequence → List ((Nat × Nat) × List Sequence)
  | [] => []
  | [] :: rest => byFirst rest
  | (r :: tail) :: rest =>
    match byFirst rest with
    | (s, tails) :: more =>
      if r = s then (r, tail :: tails) :: more else (r, [tail]) :: (s, tails) :: more
    | [] => [(r, [tail])]

end Bytes
end Pattern
end Amend
