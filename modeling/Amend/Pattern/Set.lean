/-
The character sets that patterns name, and their closure under case.
-/
import Amend.Unicode.Case
import Amend.Unicode.Lookup

namespace Amend
namespace Pattern
namespace CharSet

open Unicode

/-- Every character that simple case folding changes, with its image. -/
def foldPairs : List (Nat × Nat) :=
  foldRows.flatMap fun row =>
    (List.range ((row.last - row.first) / row.step + 1)).map fun i =>
      let n := row.first + i * row.step
      (n, ((n : Int) + row.shift).toNat)

/-- The set with all cases of its characters. -/
def anyCase (set : Ranges) : Ranges :=
  let images := (foldPairs.filter fun p => set.contains p.1 || set.contains p.2).map Prod.snd
  let added := foldPairs.filter fun p => images.contains p.2
  Ranges.normalize (set ++ images.map (fun n => (n, n)) ++ added.map fun p => (p.1, p.1))

/-- The set with both cases of its ASCII letters. -/
def anyAsciiCase (set : Ranges) : Ranges :=
  let lower := Ranges.inter set [(97, 122)]
  let upper := Ranges.inter set [(65, 90)]
  Ranges.unionAll [set, lower.map fun r => (r.1 - 32, r.2 - 32),
    upper.map fun r => (r.1 + 32, r.2 + 32)]

def asciiDigit : Ranges := .ofText "30-39"

def asciiSpace : Ranges := .ofText "9-d 20"

def asciiWord : Ranges := .ofText "30-39 41-5a 5f 61-7a"

/-- The sets of ASCII characters with names in brackets. -/
def named : List (String × Ranges) :=
  [("alnum", .ofText "30-39 41-5a 61-7a"),
    ("alpha", .ofText "41-5a 61-7a"),
    ("ascii", .ofText "0-7f"),
    ("blank", .ofText "9 20"),
    ("cntrl", .ofText "0-1f 7f"),
    ("digit", asciiDigit),
    ("graph", .ofText "21-7e"),
    ("lower", .ofText "61-7a"),
    ("print", .ofText "20-7e"),
    ("punct", .ofText "21-2f 3a-40 5b-60 7b-7e"),
    ("space", asciiSpace),
    ("upper", .ofText "41-5a"),
    ("word", asciiWord),
    ("xdigit", .ofText "30-39 41-46 61-66")]

/-- Digits, white space and word characters by their letter, of all of Unicode or of ASCII. -/
def byLetter (ascii : Bool) (letter : Char) : Ranges :=
  match letter with
  | 'd' => if ascii then asciiDigit else Category.decimalNumber
  | 's' => if ascii then asciiSpace else whiteSpace
  | _ => if ascii then asciiWord else Unicode.word

end CharSet
end Pattern
end Amend
