/-
Update documents: groups of entries by operator.  The groups stand in the order in which their
operators first came, the entries of a group in the order in which they came.
-/
import Amend.Error
import Amend.Operator.Basic
import Amend.Operator.Operand

namespace Amend

/-- What one operator is to do at one path. -/
structure Entry where
  operator : Operator
  path : String
  operand : Operand

structure Document where
  groups : List (Operator × List (String × Operand))

namespace Document

def empty : Document := ⟨[]⟩

/-- Adds an entry to the group of its operator, or as a new group at the end. -/
def pushGroup (op : Operator) (entry : String × Operand) :
    List (Operator × List (String × Operand)) → List (Operator × List (String × Operand))
  | [] => [(op, [entry])]
  | (other, entries) :: rest =>
    if other = op then (other, entries ++ [entry]) :: rest
    else (other, entries) :: pushGroup op entry rest

def push (doc : Document) (op : Operator) (path : String) (operand : Operand) : Document :=
  ⟨pushGroup op (path, operand) doc.groups⟩

/-- The entries in the order in which they are applied. -/
def entries (doc : Document) : List Entry :=
  doc.groups.flatMap fun (op, entries) => entries.map fun (path, operand) => ⟨op, path, operand⟩

/-- The number of entries. -/
def size (doc : Document) : Nat := doc.groups.foldl (fun n g => n + g.2.length) 0

def isEmpty (doc : Document) : Bool := doc.size == 0

/-- Adds the entries of one operator. -/
def pushMembers (doc : Document) (op : Operator) (members : List (String × Value)) : Document :=
  members.foldl (fun doc (path, operand) => doc.push op path (.value operand)) doc

/-- The name under which the document itself is at fault. -/
def wholeName : String := "update"

/-- Adds the groups of a document in turn. -/
def ofMembers (doc : Document) : List (String × Value) → Except UpdateError Document
  | [] => .ok doc
  | (name, group) :: rest =>
    match Operator.ofName? name with
    | none => .error (.unknownOperator name)
    | some op =>
      match group with
      | .obj members => ofMembers (doc.pushMembers op members) rest
      | _ => .error (.operator name "" .groupShape)

/-- Reads a document: for each operator an object with an operand for each path. -/
def ofJson : Value → Except UpdateError Document
  | .obj members => ofMembers empty members
  | _ => .error (.operator wholeName "" .documentShape)

end Document
end Amend
