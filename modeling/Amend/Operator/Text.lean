/-
String operators, and the words of a text from which its letter cases are built.  A missing or
null value counts as the empty string, and positions count characters.
-/
import Amend.Operator.Basic
import Amend.Operator.Operand
import Amend.Unicode.Case

namespace Amend
/-! ## Words -/

namespace Words

open Unicode (isAlphanumeric isUpper isLower isNumeric)

/-- A word, unless it is empty. -/
def flush (word : List Char) : List (List Char) := if word.isEmpty then [] else [word]

/-- The words of the rest of a text.  `current` is the word that is being read, and `low` says
whether its last character is lowercase or a number: an uppercase character after one begins a
new word. -/
def splitFrom (low : Bool) (current : List Char) : List Char → List (List Char)
  | [] => flush current
  | c :: cs =>
    if !isAlphanumeric c then flush current ++ splitFrom false [] cs
    else if isUpper c && low && !current.isEmpty then
      current :: splitFrom (isLower c || isNumeric c) [c] cs
    else splitFrom (isLower c || isNumeric c) (current ++ [c]) cs

/-- The words of a text: runs of letters and numbers, divided where lower case turns into
upper case. -/
def split (text : List Char) : List (List Char) := splitFrom false [] text

/-- The first character in uppercase, the others as they are. -/
def capitalize : List Char → List Char
  | [] => []
  | c :: cs => Unicode.upper c ++ cs

def lowered (text : List Char) : List (List Char) := (split text).map Unicode.toLower

/-- The words in lowercase with a separator between them. -/
def join (separator : List Char) (text : List Char) : List Char :=
  separator.intercalate (lowered text)

/-- The words run together, each but the first with a capital. -/
def camelCase (text : List Char) : List Char :=
  match lowered text with
  | [] => []
  | first :: rest => first ++ rest.flatMap capitalize

def kebabCase (text : List Char) : List Char := join ['-'] text

def snakeCase (text : List Char) : List Char := join ['_'] text

/-- The words with capitals and spaces between them. -/
def titleCase (text : List Char) : List Char :=
  [' '].intercalate ((lowered text).map capitalize)

end Words

/-! ## String operators -/

namespace Operator
namespace Text

/-- The stored text. -/
def stored? : Option Value → Except Fault (List Char)
  | none => .ok []
  | some .null => .ok []
  | some (.str s) => .ok s.toList
  | some other => .error (.stored other.kind "string")

def operandText : Value → Except Fault (List Char)
  | .str s => .ok s.toList
  | other => .error (.operand other.kind "string")

/-- Replaces the first place where `search` stands.  The empty text stands at the start. -/
def replaceFirst (search replacement : List Char) : List Char → List Char
  | [] => if search.isEmpty then replacement else []
  | c :: cs =>
    if search.isPrefixOf (c :: cs) then replacement ++ (c :: cs).drop search.length
    else c :: replaceFirst search replacement cs

/-- A string member that an operand must have. -/
def requiredText (members : Members Value) (name : String) : Except Fault (List Char) :=
  match Members.get? members name with
  | some (.str s) => .ok s.toList
  | some other => .error (.argument name "a string" other.text)
  | none => .error (.missing name)

def replaced (text : List Char) : Value → Except Fault (List Char)
  | .obj members => do
    let search ← requiredText members "$searchValue"
    let replacement ← requiredText members "$replaceValue"
    .ok (replaceFirst search replacement text)
  | other => .error (.operand other.kind "\x7b$searchValue, $replaceValue\x7d")

/-- The characters from an offset on; a negative offset counts from the end. -/
def fromOffset (text : List Char) (operand : Value) : Except Fault (List Char) :=
  match operand.toBinary64? with
  | some n =>
    if n.isIntegral then .ok (text.drop (Slice.offset n.toInt64 text.length))
    else .error (.operand operand.kind "integer offset")
  | none => .error (.operand operand.kind "integer offset")

/-- The text a string operator stores. -/
def change (op : Text) (text : List Char) (operand : Value) : Except Fault (List Char) :=
  match op with
  | .append => do .ok (text ++ (← operandText operand))
  | .prepend => do .ok ((← operandText operand) ++ text)
  | .replace => replaced text operand
  | .trim => .ok (Unicode.trim text)
  | .substr => fromOffset text operand
  | .capitalize => .ok (Words.capitalize text)
  | .reverse => .ok text.reverse
  | .slice => do .ok (Slice.cut text (← Slice.range operand text.length))
  | .lowercase => .ok (Unicode.toLower text)
  | .uppercase => .ok (Unicode.toUpper text)
  | .camelcase => .ok (Words.camelCase text)
  | .kebabcase => .ok (Words.kebabCase text)
  | .snakecase => .ok (Words.snakeCase text)
  | .titlecase => .ok (Words.titleCase text)

/-- The value a string operator stores. -/
def transform (op : Text) (stored : Option Value) (operand : Value) : Except Fault Value := do
  let text ← stored? stored
  let changed ← change op text operand
  .ok (.str (String.ofList changed))

end Text
end Operator
end Amend
