/-
Patterns that come down to texts.  What matches can begin with is collected as long as that is
little.  Where it makes up whole matches, or where a pattern is a choice between a great many
texts, the texts are searched for and no automaton is built.
-/
import Amend.Pattern.Bytes
import Amend.Pattern.Form

namespace Amend
namespace Pattern

/-- Bytes that a match can begin with, and whether the match ends with them. -/
structure Literal where
  bytes : List Nat
  exact : Bool

namespace Literal

/-- The largest number of characters of a set that are collected. -/
def maxChars : Nat := 10

/-- The largest number of rounds of a repetition that are collected. -/
def maxRounds : Nat := 10

/-- The largest number of bytes of a beginning. -/
def maxBytes : Nat := 100

/-- The largest number of beginnings. -/
def maxCount : Nat := 250

/-- A beginning of which more may follow. -/
def unfinished (l : Literal) : Literal := { l with exact := false }

/-- At most a number of the first bytes. -/
def cut (count : Nat) (l : Literal) : Literal :=
  if l.bytes.length ≤ count then l else ⟨l.bytes.take count, false⟩

/-- Neighbours with the same bytes as one. -/
def dedup : List Literal → List Literal
  | [] => []
  | l :: rest =>
    match dedup rest with
    | [] => [l]
    | m :: more =>
      if l.bytes = m.bytes then ⟨l.bytes, l.exact && m.exact⟩ :: more else l :: m :: more

/-- The beginnings that are found before all others that begin with them. -/
def minimize (ls : List Literal) : List Literal :=
  ls.foldl (fun kept l => if kept.any (·.bytes.isPrefixOf l.bytes) then kept else kept ++ [l]) []

/-- The bytes that two lists begin with. -/
def shared : List Nat → List Nat → List Nat
  | a :: as, b :: bs => if a = b then a :: shared as bs else []
  | _, _ => []

/-- The bytes that all begin with. -/
def sharedByAll : List Literal → List Nat
  | [] => []
  | l :: rest => rest.foldl (fun bytes m => shared bytes m.bytes) l.bytes

/-- Whether a byte stands in texts so often that a search for it is no gain. -/
def isCommon (byte : Nat) : Bool :=
  decide (0x80 ≤ byte)
    || ("\n\r (),-./0129:_abcdefghilmnoprstuvxy|".toList.map Char.toNat).contains byte

/-- Cuts beginnings off while there are more of them than the lengths allow. -/
def shorten : List (Nat × Nat) → List Literal → List Literal
  | [], ls => ls
  | (length, count) :: rest, ls =>
    if ls.length ≤ count then ls else shorten rest (minimize (ls.map (cut length)))

/-- Whether beginnings are whole matches and a search for them is not made faster by cutting some
of them off. -/
def areSought (ls : List Literal) : Bool :=
  let kept := minimize ls
  let common := sharedByAll kept
  if 1 < ls.length ∧ common.length ≤ 3 ∧ common.head?.any (!isCommon ·) then
    kept.all fun l => l.exact && decide (l.bytes.length ≤ 1)
  else
    let few := kept.all (·.exact) && decide (kept.length ≤ 16)
    let kept :=
      if 4 < common.length ∨ (1 < common.length ∧ !few) then dedup (kept.map (cut common.length))
      else kept
    let short := shorten [(5, 10), (4, 10), (3, 64), (2, 64), (1, 10)] kept
    let isWorse := short.any (fun l => decide (l.bytes.length ≤ 2)) || decide (64 < short.length)
    kept.all (·.exact) && (isWorse || short.all (·.exact))

end Literal

/-- What matches begin with, in order of preference, unless that is too much. -/
abbrev Literals := Option (List Literal)

namespace Literals

open Literal

/-- The empty text. -/
def empty : Literals := some [⟨[], true⟩]

def unfinished : Literals → Literals := Option.map (List.map Literal.unfinished)

/-- Whether no beginning is a whole match. -/
def isUnfinished (a : Literals) : Bool := !a.any (List.any · (·.exact))

/-- Beginnings that anything may follow. -/
def beforeAnything (ls : List Literal) : Literals :=
  if ls.any (·.bytes.isEmpty) then none else some (ls.map Literal.unfinished)

/-- Each of the first ones that is a whole match, followed by each of the second ones. -/
def cross : Literals → Literals → Literals
  | none, _ => none
  | some ls, none => beforeAnything ls
  | some ls, some ms =>
    if maxCount < ls.length * ms.length then beforeAnything ls
    else
      let joined := ls.flatMap fun l =>
        if l.exact then ms.map fun m => ⟨l.bytes ++ m.bytes, m.exact⟩ else [l]
      some ((dedup joined).map (cut maxBytes))

/-- The first ones and the second ones, cut off if they are too many. -/
def union : Literals → Literals → Literals
  | some ls, some ms =>
    if ls.length + ms.length ≤ maxCount then some (dedup (ls ++ ms))
    else
      let ls := dedup (ls.map (cut 4))
      let ms := dedup (ms.map (cut 4))
      if ls.length + ms.length ≤ maxCount then some (dedup (ls ++ ms)) else none
  | _, _ => none

/-- The given ones over and over, behind what is there. -/
def times (a : Literals) : Nat → Literals → Literals
  | 0, done => done
  | n + 1, done => if done.isUnfinished then done else times a n (done.cross a)

/-- What the repetitions of something begin with. -/
def repeated (a : Literals) (least : Nat) (most : Option Nat) (greedy : Bool) : Literals :=
  if least = 0 then
    let a := if most = some 1 then a else a.unfinished
    if greedy then a.union empty else empty.union a
  else
    let done := times a (min least maxRounds) empty
    if most = some least ∧ least ≤ maxRounds then done else done.unfinished

/-- The characters of a set. -/
def ofSet (set : Unicode.Ranges) : Literals :=
  let count := List.foldl (fun n r => n + (r.2 + 1 - r.1)) 0 set
  if maxChars < count then none
  else some (List.flatMap (fun r =>
    (List.range' r.1 (r.2 + 1 - r.1)).map fun c => ⟨Bytes.ofCode c, true⟩) set)

mutual

/-- What the matches of a form begin with. -/
def ofForm : Form → Literals
  | .empty => empty
  | .text codes => some [cut maxBytes ⟨codes.flatMap Bytes.ofCode, true⟩]
  | .chars set _ => ofSet set
  | .assert _ => empty
  | .rep f least most greedy => repeated (ofForm f) least most greedy
  | .group f => ofForm f
  | .seq parts => ofParts empty parts
  | .choice branches => ofBranches (some []) branches
termination_by structural f => f

/-- What parts begin with behind what is there. -/
def ofParts (done : Literals) : List Form → Literals
  | [] => done
  | f :: fs => if done.isUnfinished then done else ofParts (done.cross (ofForm f)) fs
termination_by structural fs => fs

/-- What branches begin with after what is there. -/
def ofBranches (done : Literals) : List Form → Literals
  | [] => done
  | f :: fs => if done.isNone then none else ofBranches (done.union (ofForm f)) fs
termination_by structural fs => fs

end

end Literals

namespace Form

mutual

/-- Whether a form has neither groups nor assertions. -/
def isBare : Form → Bool
  | .empty => true
  | .text _ => true
  | .chars _ _ => true
  | .assert _ => false
  | .rep f _ _ _ => isBare f
  | .group _ => false
  | .seq parts => allBare parts
  | .choice branches => allBare branches
termination_by structural f => f

def allBare : List Form → Bool
  | [] => true
  | f :: fs => isBare f && allBare fs
termination_by structural fs => fs

end

/-- Whether the matches of a form are a few texts that are searched for. -/
def isFewTexts (f : Form) : Bool :=
  match Literals.ofForm f with
  | some ls =>
    f.isBare && !ls.isEmpty && ls.all (!·.bytes.isEmpty) && Literal.areSought (Literal.dedup ls)
  | none => false

def text? : Form → Option (List Nat)
  | .text codes => some codes
  | _ => none

/-- Whether a form is a choice between so many texts that they are looked up. -/
def isDictionary : Form → Bool
  | .choice branches =>
    decide (3000 ≤ branches.length) && branches.all fun f => f.text?.isSome
  | _ => false

end Form
end Pattern
end Amend
