/-
The size of the automata that read the bytes of a text, forward or backward, in search of a
pattern.  A state takes 32 bytes, each of several moves of a state by a byte 8 more, and each of
several moves without a byte 4 more.
-/
import Amend.Pattern.Literal
import Std.Data.HashMap

namespace Amend
namespace Pattern
namespace Automaton

open Unicode (Ranges)
open Bytes (Sequence)

/-- A number of states and the bytes they take beyond those that every state takes. -/
structure Tally where
  states : Nat
  extra : Nat

namespace Tally

def plus (a b : Tally) : Tally := ⟨a.states + b.states, a.extra + b.extra⟩

def sum (tallies : List Tally) : Tally := tallies.foldl plus ⟨0, 0⟩

def size (t : Tally) : Nat := 32 * t.states + t.extra

end Tally

/-- The largest size that is accepted. -/
def maxSize : Nat := 0x100000

/-- Construction, which ends without result when the automaton becomes too large. -/
abbrev Build := StateT Tally Option

def add (t : Tally) : Build Unit := do
  let total := (← get).plus t
  if total.size ≤ maxSize then set total else failure

/-- Adds a state and gives its number. -/
def newState (extra : Nat) : Build Nat := do
  let n := (← get).states
  add ⟨1, extra⟩
  return n

/-- Adds a move at the end of what has been built, where `several` says whether a state stands
there that has several moves without a byte. -/
def leave (several : Bool) : Build Unit := if several then add ⟨0, 4⟩ else return ()

/-- States by the keys they were built for.  A key drives out another one from its slot. -/
abbrev Memo := Std.HashMap Nat (List Nat × Nat)

/-- The slot of a key in a table with some room, by a hash of 64 bits. -/
def slot (room : Nat) (key : List Nat) : Nat :=
  let hash : UInt64 :=
    key.foldl (fun h n => (h ^^^ n.toUInt64) * 0x100000001B3) 0xCBF29CE484222325
  hash.toNat % room

/-- The state for a key, which is built unless the table has it. -/
def stateFor (room : Nat) (key : List Nat) (extra : Nat) : StateT Memo Build Nat := do
  let place := slot room key
  match (← get).get? place with
  | some (other, n) => if other = key then return n else build place
  | none => build place
where
  build (place : Nat) : StateT Memo Build Nat := do
    let n ← newState extra
    modify fun memo => memo.insert place (key, n)
    return n

/-- The state that reads one of several sequences forward on the way to a target.  The first
number bounds their length. -/
def forward (target : Nat) : Nat → List Sequence → StateT Memo Build Nat
  | 0, _ => return target
  | length + 1, sequences => do
    let moves ← (Bytes.byFirst sequences).mapM fun (range, rest) => do
      let next ← if rest.all (·.isEmpty) then pure target else forward target length rest
      return [range.1, range.2, next]
    stateFor 10000 moves.flatten (8 * moves.length)

/-- The states that read a sequence backward, the last of which leads to a target. -/
def backward (target : Nat) (sequence : Sequence) : StateT Memo Build Unit := do
  let _ ← sequence.foldlM (fun next range => stateFor 1000 [next, range.1, range.2] 0) target
  add ⟨0, 4⟩

/-- What reads one character of a set. -/
def ofSet (back : Bool) (set : Ranges) : Build Unit := do
  if List.all set fun r => decide (r.2 < 0x80) then add ⟨2, 8 * List.length set⟩
  else if back then
    add ⟨1, 0⟩
    let target ← newState 0
    ((Bytes.sequences set).forM (backward target)).run' {}
  else
    let target ← newState 0
    let _ ← (forward target 4 (Bytes.sequences set)).run' {}

/-- The runs of texts between empty texts. -/
def runs : List (List Nat) → List (List (List Nat))
  | [] => [[]]
  | [] :: texts => [] :: runs texts
  | text :: texts =>
    match runs texts with
    | [] => [[text]]
    | run :: rest => (text :: run) :: rest

/-- What follows each first byte, in the order of the texts. -/
def byByte (texts : List (List Nat)) : List (List (List Nat)) :=
  (texts.filterMap (·.head?)).eraseDups.map fun b =>
    texts.filterMap fun text => if text.head? = some b then some text.tail else none

/-- The tree that reads one of several texts.  Texts share their beginnings as far as no other
one ends there.  Where all end no state is needed, and ends before any further byte count once.
The first number is above the length of the texts. -/
def tree : Nat → List (List Nat) → Tally
  | 0, _ => ⟨0, 0⟩
  | fuel + 1, texts =>
    if texts.all (·.isEmpty) then ⟨0, 0⟩
    else
      let all := runs texts
      let kept := all.drop ((all.takeWhile (·.isEmpty)).length - 1)
      let full := (kept.filter (!·.isEmpty)).map byByte
      let moves := full.map fun nexts => if nexts.length = 1 then 0 else 8 * nexts.length
      let own : Tally := ⟨1 + full.length, 4 * (full.length + (kept.length - 1))⟩
      Tally.sum (own :: moves.map (⟨0, ·⟩) ++ full.flatten.map (tree fuel))

/-- What reads one of several texts. -/
def ofTexts (back : Bool) (texts : List (List Nat)) : Build Unit := do
  let texts := texts.map fun codes =>
    let bytes := codes.flatMap Bytes.ofCode
    if back then bytes.reverse else bytes
  let longest := texts.foldl (fun n text => max n text.length) 0
  add ⟨1, 0⟩
  add (tree (longest + 1) texts)

/-- The same thing a number of times. -/
def copies (once : Build Bool) : Nat → Build Bool
  | 0 => do
    add ⟨1, 0⟩
    return false
  | 1 => once
  | n + 2 => do
    leave (← once)
    copies once (n + 1)

/-- The same thing at most a number of times after what has been built. -/
def further (once : Build Bool) : Nat → Bool → Build Bool
  | 0, several => do
    leave several
    return false
  | n + 1, several => do
    add ⟨1, 8⟩
    let next ← once
    leave several
    further once n next

/-- The same thing over and over.  Where it can match the empty text, a repetition from zero
times on is an optional one from one time on. -/
def repeated (once : Build Bool) (consumes : Bool) (least : Nat) (most : Option Nat) :
    Build Bool := do
  match least, most with
  | 0, some 1 =>
    add ⟨1, 8⟩
    leave (← once)
    add ⟨1, 0⟩
    return false
  | 0, none =>
    if consumes then
      add ⟨1, 4⟩
      leave (← once)
      return true
    else
      leave (← once)
      add ⟨3, 16⟩
      return false
  | least, none =>
    leave (← copies once least)
    add ⟨1, 4⟩
    return true
  | least, some most =>
    let several ← copies once least
    if least = most then return several
    else
      add ⟨1, 0⟩
      further once (most - least) several

mutual

/-- Builds what reads a form.  The result says whether a state with several moves without a byte
stands at the end. -/
def build (back : Bool) : Form → Build Bool
  | .empty => do
    add ⟨1, 0⟩
    return false
  | .text codes => do
    add ⟨(codes.flatMap Bytes.ofCode).length, 0⟩
    return false
  | .chars set _ => do
    ofSet back set
    return false
  | .assert _ => do
    add ⟨1, 0⟩
    return false
  | .rep f least most _ => repeated (build back f) f.consumes least most
  | .group f => do
    if back then build back f
    else
      add ⟨1, 0⟩
      leave (← build back f)
      add ⟨1, 0⟩
      return false
  | .seq parts => buildParts back parts
  | .choice branches => do
    match branches.mapM Form.text? with
    | some texts => ofTexts back texts
    | none => buildBranches back 0 branches
    return false
termination_by structural f => f

/-- Builds parts in the order in which they are read. -/
def buildParts (back : Bool) : List Form → Build Bool
  | [] => do
    add ⟨1, 0⟩
    return false
  | [f] => build back f
  | f :: fs => do
    if back then
      leave (← buildParts back fs)
      build back f
    else
      leave (← build back f)
      buildParts back fs
termination_by structural fs => fs

/-- Builds branches, and with the second one the states where they part and meet. -/
def buildBranches (back : Bool) : Nat → List Form → Build Unit
  | _, [] => return ()
  | i, f :: fs => do
    leave (← build back f)
    if i = 1 then add ⟨2, 8⟩ else if 1 < i then add ⟨0, 4⟩
    buildBranches back (i + 1) fs
termination_by structural _ fs => fs

end

/-- Builds the whole automaton, which passes over bytes at first unless the form is anchored. -/
def buildAll (back : Bool) (f : Form) : Build Unit := do
  if f.anchored back then add ⟨1, 0⟩ else add ⟨3, 16⟩
  leave (← build back (if back then f else .group f))
  add ⟨1, 0⟩

/-- Whether an automaton for a form is small enough. -/
def fits (back : Bool) (f : Form) : Bool := ((buildAll back f).run ⟨0, 0⟩).isSome

end Automaton

/-- Whether a pattern is small enough.  Where automata are built, those for both directions have to
be. -/
def fits (p : Pattern) : Bool :=
  let f := Form.ofPattern p
  f.isFewTexts || f.isDictionary || (Automaton.fits false f && Automaton.fits true f)

end Pattern
end Amend
