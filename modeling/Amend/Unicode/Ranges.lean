/-
Sets of code points as sorted ranges.  Tables are texts of hexadecimal ranges: `41-5a` is every
code point from the first to the last, `100~12e` every second one.
-/

namespace Amend
namespace Unicode

/-- Ranges of code points, both ends included. -/
abbrev Ranges := List (Nat × Nat)

namespace Ranges

/-- The parts of a text between single characters. -/
def splitOn (separator : Char) : List Char → List (List Char)
  | [] => [[]]
  | c :: cs =>
    if c = separator then [] :: splitOn separator cs
    else match splitOn separator cs with
      | [] => [[c]]
      | part :: rest => (c :: part) :: rest

/-- The words of a table text. -/
def tokens (text : String) : List (List Char) :=
  (splitOn ' ' (text.toList.map fun c => if c = '\n' then ' ' else c)).filter (!·.isEmpty)

def hexDigit (c : Char) : Nat := if c.isDigit then c.toNat - 48 else c.toNat - 87

def hexNumber (cs : List Char) : Nat := cs.foldl (fun n c => n * 16 + hexDigit c) 0

/-- The ranges of one word of a table. -/
def ofToken (token : List Char) : Ranges :=
  let (first, rest) := token.span fun c => c != '-' && c != '~'
  let a := hexNumber first
  match rest with
  | '-' :: last => [(a, hexNumber last)]
  | '~' :: last => (List.range ((hexNumber last - a) / 2 + 1)).map fun i => (a + 2 * i, a + 2 * i)
  | _ => [(a, a)]

def ofText (text : String) : Ranges := (tokens text).flatMap ofToken

def contains (rs : Ranges) (n : Nat) : Bool := rs.any fun r => decide (r.1 ≤ n) && decide (n ≤ r.2)

/-- Joins neighbours in a list that is sorted by first ends. -/
def joinSorted : Ranges → Ranges
  | [] => []
  | [r] => [r]
  | r :: s :: rest =>
    if s.1 ≤ r.2 + 1 then joinSorted ((r.1, max r.2 s.2) :: rest) else r :: joinSorted (s :: rest)
termination_by rs => rs.length

/-- The same code points as sorted ranges with gaps between them. -/
def normalize (rs : Ranges) : Ranges := joinSorted (rs.mergeSort fun r s => decide (r.1 ≤ s.1))

def union (a b : Ranges) : Ranges := normalize (a ++ b)

def unionAll (sets : List Ranges) : Ranges := normalize sets.flatten

def lastCode : Nat := 0x10FFFF

/-- The code points that are no characters, halves of pairs in another encoding. -/
def surrogates : Ranges := [(0xD800, 0xDFFF)]

def all : Ranges := [(0, lastCode)]

/-- The gaps from `start` on between sorted ranges. -/
def gaps (start : Nat) : Ranges → Ranges
  | [] => if start ≤ lastCode then [(start, lastCode)] else []
  | r :: rest =>
    if start < r.1 then (start, r.1 - 1) :: gaps (r.2 + 1) rest else gaps (r.2 + 1) rest

def complement (rs : Ranges) : Ranges := gaps 0 (normalize rs)

/-- The code points of both sets, as the complement of those missing from one of them. -/
def inter (a b : Ranges) : Ranges := complement (union (complement a) (complement b))

def diff (a b : Ranges) : Ranges := inter a (complement b)

def symmDiff (a b : Ranges) : Ranges := diff (union a b) (inter a b)

end Ranges
end Unicode
end Amend
