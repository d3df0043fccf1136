/-
Patterns in simplified form.  Neighbouring characters make up texts, parts of parts and branches
of branches are joined, choices between characters become sets, and what all branches begin with
stands before them.
-/
import Amend.Pattern.Basic

namespace Amend
namespace Pattern

open Unicode (Ranges)

/-- A simplified pattern. -/
inductive Form where
  | empty
  /-- A text of one character or more. -/
  | text (codes : List Nat)
  /-- One of several characters, or of none. -/
  | chars (set : Ranges) (bytes : Bool)
  | assert (a : Assertion)
  | rep (f : Form) (least : Nat) (most : Option Nat) (greedy : Bool)
  | group (f : Form)
  | seq (parts : List Form)
  | choice (branches : List Form)

namespace Form

mutual

/-- Whether nothing but the empty text can match. -/
def onlyEmpty : Form → Bool
  | .empty => true
  | .text _ => false
  | .chars _ _ => false
  | .assert _ => true
  | .rep f _ most _ => most.isSome && onlyEmpty f
  | .group f => onlyEmpty f
  | .seq parts => allOnlyEmpty parts
  | .choice branches => allOnlyEmpty branches
termination_by structural f => f

def allOnlyEmpty : List Form → Bool
  | [] => true
  | f :: fs => onlyEmpty f && allOnlyEmpty fs
termination_by structural fs => fs

end

mutual

/-- The least length of a text that matches, unless some part matches nothing. -/
def leastLength : Form → Option Nat
  | .empty => some 0
  | .text codes => some codes.length
  | .chars set _ => if set.isEmpty then none else some 1
  | .assert _ => some 0
  | .rep f least _ _ => (leastLength f).map (least * ·)
  | .group f => leastLength f
  | .seq parts => leastSum parts
  | .choice branches => leastOf branches
termination_by structural f => f

/-- The sum of the least lengths. -/
def leastSum : List Form → Option Nat
  | [] => some 0
  | f :: fs => do return (← leastLength f) + (← leastSum fs)
termination_by structural fs => fs

/-- The smallest of the least lengths. -/
def leastOf : List Form → Option Nat
  | [] => none
  | [f] => leastLength f
  | f :: fs => do return min (← leastLength f) (← leastOf fs)
termination_by structural fs => fs

end

/-- Whether only texts that are not empty match. -/
def consumes (f : Form) : Bool := f.leastLength.any (0 < ·)

mutual

/-- Whether every match begins at the start of the whole text, or with `back` ends at its end. -/
def anchored (back : Bool) : Form → Bool
  | .empty => false
  | .text _ => false
  | .chars _ _ => false
  | .assert a => a == (if back then .textEnd else .textStart)
  | .rep f least _ _ => decide (0 < least) && anchored back f
  | .group f => anchored back f
  | .seq parts => anyAnchored back parts
  | .choice branches => allAnchored back branches
termination_by structural f => f

/-- Whether a part is anchored that stands at the edge, beside parts that match the empty text
alone. -/
def anyAnchored (back : Bool) : List Form → Bool
  | [] => false
  | f :: fs =>
    if back then anyAnchored back fs || (allOnlyEmpty fs && anchored back f)
    else anchored back f || (onlyEmpty f && anyAnchored back fs)
termination_by structural fs => fs

def allAnchored (back : Bool) : List Form → Bool
  | [] => true
  | f :: fs => anchored back f && allAnchored back fs
termination_by structural fs => fs

end

mutual

/-- Whether two forms are written alike.  Groups are not, because their numbers differ. -/
def same : Form → Form → Bool
  | .empty, .empty => true
  | .text a, .text b => a == b
  | .chars a bytes, .chars b bytes' => a == b && bytes == bytes'
  | .assert a, .assert b => a == b
  | .rep f least most greedy, .rep g least' most' greedy' =>
    least == least' && most == most' && greedy == greedy' && same f g
  | .seq fs, .seq gs => sameAll fs gs
  | .choice fs, .choice gs => sameAll fs gs
  | _, _ => false
termination_by structural f => f

def sameAll : List Form → List Form → Bool
  | [], [] => true
  | f :: fs, g :: gs => same f g && sameAll fs gs
  | _, _ => false
termination_by structural fs => fs

end

/-- The number of parts at the beginning that two lists share. -/
def sharedLength : List Form → List Form → Nat
  | f :: fs, g :: gs => if same f g then sharedLength fs gs + 1 else 0
  | _, _ => 0

/-- The ranges of a set that hold characters, without the code points at their ends that are
none. -/
def characters (set : Ranges) : Ranges :=
  let isCharacter := fun (n : Nat) => decide (n < 0xD800) || decide (0xE000 ≤ n)
  List.filter (fun r => decide (r.1 ≤ r.2)) (List.map (fun r =>
    (if isCharacter r.1 then r.1 else 0xE000, if isCharacter r.2 then r.2 else 0xD7FF)) set)

/-- One character of a set. -/
def ofSet (set : Ranges) (bytes : Bool) : Form :=
  match characters set with
  | [] => .chars [] true
  | [(a, b)] => if a = b then .text [a] else .chars [(a, b)] bytes
  | set => .chars set bytes

/-- What stands one after the other in a form. -/
def parts : Form → List Form
  | .empty => []
  | .seq parts => parts
  | f => [f]

/-- Parts and further parts, with texts joined where they meet. -/
def append : List Form → List Form → List Form
  | [], gs => gs
  | [.text a], .text b :: gs => .text (a ++ b) :: gs
  | f :: fs, gs => f :: append fs gs

def ofParts : List Form → Form
  | [] => .empty
  | [f] => f
  | fs => .seq fs

/-- One form after the other. -/
def andThen (f g : Form) : Form := ofParts (append f.parts g.parts)

/-- A form over and over. -/
def repeated (f : Form) (least : Nat) (most : Option Nat) (greedy : Bool) : Form :=
  if least = 0 ∧ most = some 0 then .empty
  else if least = 1 ∧ most = some 1 then f
  else .rep f least most greedy

/-- The branches of a form. -/
def branches : Form → List Form
  | .choice branches => branches
  | f => [f]

/-- The only character of a form. -/
def single? : Form → Option (Nat × Nat)
  | .text [c] => some (c, c)
  | _ => none

def set? : Form → Option Ranges
  | .chars set _ => some set
  | _ => none

def parts? : Form → Option (List Form)
  | .seq parts => some parts
  | _ => none

/-- A set in place of branches that are all characters or all sets. -/
def oneOf? (fs : List Form) : Option Form :=
  match fs.mapM single?, fs.mapM set? with
  | some codes, _ => some (ofSet (Ranges.normalize codes) false)
  | none, some sets => some (ofSet (Ranges.unionAll sets) false)
  | none, none => none

/-- A choice whose branches begin differently. -/
def unite (fs : List Form) : Form :=
  let fs := fs.flatMap branches
  (oneOf? fs).getD (.choice fs)

/-- The parts that all lists begin with. -/
def sharedParts : List (List Form) → List Form
  | [] => []
  | fs :: rest => fs.take (rest.foldl (fun n gs => min n (sharedLength fs gs)) fs.length)

/-- A choice between forms. -/
def choose (fs : List Form) : Form :=
  match fs with
  | [f] => f
  | fs =>
    let fs := fs.flatMap branches
    match oneOf? fs, fs.mapM parts? with
    | some f, _ => f
    | none, none => .choice fs
    | none, some lists =>
      let shared := sharedParts lists
      if shared.isEmpty then .choice fs
      else andThen (ofParts shared) (unite (lists.map fun gs => ofParts (gs.drop shared.length)))

/-- The forms of the branches of a pattern. -/
def ofBranches : Pattern → List Form
  | .empty => [.empty]
  | .chars set bytes => [ofSet set bytes]
  | .assert a => [.assert a]
  | .seq first second => [andThen (choose (ofBranches first)) (choose (ofBranches second))]
  | .alt first second => choose (ofBranches first) :: ofBranches second
  | .rep p least most greedy => [repeated (choose (ofBranches p)) least most greedy]
  | .group numbered p =>
    let f := choose (ofBranches p)
    [if numbered then .group f else f]

/-- The simplified form of a pattern. -/
def ofPattern (p : Pattern) : Form := choose (ofBranches p)

end Form
end Pattern
end Amend
