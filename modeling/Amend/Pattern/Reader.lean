/-
Reading patterns.  The grammar is that of common regular expressions without look-around and
back references: groups with names or flags, bracketed sets with nesting and set operations,
classes by letter or property, counted repetitions, and anchors.
-/
import Amend.Pattern.Automaton
import Amend.Pattern.Set

namespace Amend
namespace Pattern
namespace Reader

open Unicode (Ranges)

/-- The settings that flags change. -/
structure Flags where
  anyCase : Bool := false
  multiLine : Bool := false
  dotAll : Bool := false
  swapGreed : Bool := false
  unicode : Bool := true
  returns : Bool := false
  spaced : Bool := false

structure State where
  rest : List Char
  flags : Flags
  names : List (List Char)

abbrev Read := StateT State Option

def peek : Read (Option Char) := do return (← get).rest.head?

def next : Read Char := do
  let s ← get
  match s.rest with
  | c :: rest =>
    set { s with rest := rest }
    return c
  | [] => failure

/-- The characters after white space and comments. -/
def dropSpaced : List Char → List Char
  | [] => []
  | c :: cs =>
    if Unicode.isWhiteSpace c then dropSpaced cs
    else if c = '#' then dropComment cs
    else c :: cs
where
  dropComment : List Char → List Char
    | [] => []
    | c :: cs => if c = '\n' then dropSpaced cs else dropComment cs

/-- Passes over white space and comments where the flags ask for it. -/
def skip : Read Unit :=
  modify fun s => if s.flags.spaced then { s with rest := dropSpaced s.rest } else s

/-- Takes a text if it comes next. -/
def take (text : String) : Read Bool := do
  let s ← get
  if text.toList.isPrefixOf s.rest then
    set { s with rest := s.rest.drop text.length }
    return true
  else return false

def expect (c : Char) : Read Unit := do
  if (← next) = c then return () else failure

def require (ok : Bool) : Read Unit := if ok then return () else failure

/-- The longest run of characters of a kind, each followed by whatever may be skipped. -/
def run (kind : Char → Bool) : Nat → Read (List Char)
  | 0 => return []
  | n + 1 => do
    match ← peek with
    | some c =>
      if kind c then
        let _ ← next
        skip
        return c :: (← run kind n)
      else return []
    | none => return []

def runAll (kind : Char → Bool) : Read (List Char) := do run kind (← get).rest.length

/-- What stands for one place or one character. -/
inductive Primitive where
  | literal (c : Char) (byte : Bool)
  | set (set : Ranges)
  | place (a : Assertion)
  | dot

def isHex (c : Char) : Bool :=
  c.isDigit || ('a' ≤ c && c ≤ 'f') || ('A' ≤ c && c ≤ 'F')

def hexNumber (digits : List Char) : Nat :=
  Unicode.Ranges.hexNumber (digits.map Char.toLower)

/-- The character with a code. -/
def charOf (n : Nat) : Read Char :=
  if n < 0xD800 ∨ (0xE000 ≤ n ∧ n ≤ 0x10FFFF) then return Char.ofNat n else failure

/-- A fixed number of hexadecimal digits. -/
def fixedHex : Nat → Read (List Char)
  | 0 => return []
  | n + 1 => do
    let c ← next
    require (isHex c)
    skip
    return c :: (← fixedHex n)

/-- A code after its letter: in braces, or with as many digits as the letter says. -/
def readHex (letter : Char) : Read Primitive := do
  skip
  if ← take "\x7b" then
    skip
    let digits ← runAll (· != '\x7d')
    expect '\x7d'
    require (!digits.isEmpty && digits.all isHex)
    return .literal (← charOf (hexNumber digits)) false
  else
    let count := if letter = 'x' then 2 else if letter = 'u' then 4 else 8
    return .literal (← charOf (hexNumber (← fixedHex count))) (letter == 'x')

/-- The parts of a name around the first place where a mark stands. -/
def splitAt? (mark : List Char) : List Char → Option (List Char × List Char)
  | [] => none
  | c :: cs =>
    if mark.isPrefixOf (c :: cs) then some ([], (c :: cs).drop mark.length)
    else (splitAt? mark cs).map fun (a, b) => (c :: a, b)

/-- The set that a property names, perhaps with a value. -/
def propertySet (name : List Char) : Option Ranges :=
  let value := fun (a b : List Char) =>
    Unicode.propertyValue? (String.ofList a) (String.ofList b)
  match splitAt? ['!', '='] name with
  | some (a, b) => (value a b).map Unicode.Ranges.complement
  | none =>
    match (splitAt? [':'] name).or (splitAt? ['='] name) with
    | some (a, b) => value a b
    | none => Unicode.property? (String.ofList name)

/-- The set with all cases of its characters where the flags ask for it. -/
def closed (set : Ranges) : Read Ranges := do
  let flags := (← get).flags
  if !flags.anyCase then return Unicode.Ranges.normalize set
  else if flags.unicode then return CharSet.anyCase set
  else return CharSet.anyAsciiCase set

/-- The set or what it lacks.  Without Unicode a complement would hold bytes that are no
characters. -/
def negatedIf (negated : Bool) (set : Ranges) : Read Ranges := do
  if !negated then return set
  else if (← get).flags.unicode then return set.complement
  else failure

/-- A property after its letter. -/
def readProperty (negated : Bool) : Read Primitive := do
  skip
  let name ←
    if ← take "\x7b" then do
      skip
      let name ← runAll (· != '\x7d')
      expect '\x7d'
      pure name
    else do
      let c ← next
      require (c != '\\')
      skip
      pure [c]
  require (← get).flags.unicode
  match propertySet name with
  | some set => return .set (← negatedIf negated (← closed set))
  | none => failure

def metaCharacters : List Char := "\\.+*?()|[]\x7b\x7d^$#&-~".toList

/-- The characters that may stand after a backslash for themselves. -/
def isEscapable (c : Char) : Bool :=
  metaCharacters.contains c
    || (decide (c.toNat < 128) && !c.isAlphanum && c != '<' && c != '>')

/-- A name in braces after the letter for a word boundary.  Anything else in braces is a
repetition and left alone. -/
def readBoundary : Read Assertion := do
  let ascii := !(← get).flags.unicode
  let before ← get
  if ← take "\x7b" then
    skip
    require ((← peek).isSome)
    let isNameChar := fun (c : Char) => c.isAlpha || c == '-'
    if (← peek).any isNameChar then
      let name ← runAll isNameChar
      expect '\x7d'
      match String.ofList name with
      | "start" => return .wordStart ascii
      | "end" => return .wordEnd ascii
      | "start-half" => return .wordStartHalf ascii
      | "end-half" => return .wordEndHalf ascii
      | _ => failure
    else
      set before
      return .wordBoundary ascii
  else return .wordBoundary ascii

/-- What follows a backslash. -/
def readEscape : Read Primitive := do
  let c ← next
  let ascii := !(← get).flags.unicode
  if c = 'x' ∨ c = 'u' ∨ c = 'U' then readHex c
  else if c = 'p' ∨ c = 'P' then readProperty (c == 'P')
  else if c = 'd' ∨ c = 's' ∨ c = 'w' then return .set (CharSet.byLetter ascii c)
  else if c = 'D' ∨ c = 'S' ∨ c = 'W' then
    return .set (← negatedIf true (CharSet.byLetter ascii c.toLower))
  else if isEscapable c then return .literal c false
  else match c with
    | 'a' => return .literal (Char.ofNat 7) false
    | 'f' => return .literal (Char.ofNat 12) false
    | 't' => return .literal '\t' false
    | 'n' => return .literal '\n' false
    | 'r' => return .literal '\r' false
    | 'v' => return .literal (Char.ofNat 11) false
    | 'A' => return .place .textStart
    | 'z' => return .place .textEnd
    | 'b' => return .place (← readBoundary)
    | 'B' => return .place (.notWordBoundary ascii)
    | '<' => return .place (.wordStart ascii)
    | '>' => return .place (.wordEnd ascii)
    | _ => failure

/-- One character that stands for itself, as the flags allow it. -/
def literalSet (c : Char) (byte : Bool) : Read Ranges := do
  require ((← get).flags.unicode || !byte || c.toNat < 128)
  closed [(c.toNat, c.toNat)]

def readPrimitive : Read Pattern := do
  let flags := (← get).flags
  let c ← next
  let p ←
    if c = '\\' then readEscape
    else if c = '.' then pure .dot
    else if c = '^' then
      pure (.place (if !flags.multiLine then .textStart
        else if flags.returns then .lineStartReturn else .lineStart))
    else if c = '$' then
      pure (.place (if !flags.multiLine then .textEnd
        else if flags.returns then .lineEndReturn else .lineEnd))
    else pure (.literal c false)
  let bytes := !flags.unicode
  match p with
  | .literal c byte => return .chars (← literalSet c byte) bytes
  | .set set => return .chars set bytes
  | .place a => return .assert a
  | .dot =>
    require flags.unicode
    if flags.dotAll then return .one Unicode.Ranges.all
    else if flags.returns then return .one (Unicode.Ranges.complement [(10, 10), (13, 13)])
    else return .one (Unicode.Ranges.complement [(10, 10)])

/-- A set with the depth of its nesting. -/
structure Nested where
  set : Ranges
  depth : Nat

inductive SetOp where
  | inter
  | diff
  | symmDiff

def SetOp.apply : SetOp → Ranges → Ranges → Ranges
  | .inter => Unicode.Ranges.inter
  | .diff => Unicode.Ranges.diff
  | .symmDiff => Unicode.Ranges.symmDiff

/-- The union of the items between two operators. -/
def unite (items : List Nested) : Nested :=
  let depth := items.foldl (fun d item => max d item.depth) 0
  ⟨Unicode.Ranges.unionAll (items.map (·.set)), if items.length < 2 then depth else depth + 1⟩

/-- The result of an operator that waits for its second operand. -/
def combine (pending : Option (SetOp × Nested)) (items : List Nested) : Read Nested := do
  let right := unite items
  match pending with
  | none => return right
  | some (op, left) =>
    return ⟨op.apply (← closed left.set) (← closed right.set), max left.depth right.depth + 1⟩

/-- A set with a name in colons, after its opening bracket. -/
def readNamed : Read (Option Ranges) := do
  let before ← get
  let giveUp : Read (Option Ranges) := do
    set before
    return none
  if !(← take "[:") then giveUp
  else
    let negated ← take "^"
    let s ← get
    let (name, rest) := s.rest.span (· != ':')
    match CharSet.named.lookup (String.ofList name), rest with
    | some found, ':' :: ']' :: rest =>
      set { s with rest := rest }
      return some (← negatedIf negated (← closed found))
    | _, _ => giveUp

/-- A primitive inside brackets. -/
def readSetPrimitive : Read Primitive := do
  let c ← next
  if c = '\\' then readEscape else return .literal c false

/-- A literal that may stand in a set or bound a range. -/
def setLiteral : Primitive → Read Nat
  | .literal c _ => do
    require ((← get).flags.unicode || c.toNat < 128)
    return c.toNat
  | _ => failure

/-- The next character but one, apart from white space.  The start of a comment is passed over,
its text is not. -/
def peekSecond : Read (Option Char) := do
  let s ← get
  let rest := s.rest.drop 1
  if s.flags.spaced then
    match rest.dropWhile Unicode.isWhiteSpace with
    | '#' :: rest => return (rest.dropWhile Unicode.isWhiteSpace).head?
    | rest => return rest.head?
  else return rest.head?

/-- A character, a range, or a class inside brackets. -/
def readSetItem : Read Ranges := do
  let first ← readSetPrimitive
  skip
  require ((← peek).isSome)
  let second ← peekSecond
  if (← peek) != some '-' || second == some ']' || second == some '-' then
    match first with
    | .set set => return set
    | other =>
      let n ← setLiteral other
      return [(n, n)]
  else
    let _ ← next
    skip
    let last ← readSetPrimitive
    let a ← setLiteral first
    let b ← setLiteral last
    require (decide (a ≤ b))
    return [(a, b)]

mutual

/-- Reads a bracketed set from its opening bracket to its closing one. -/
def readSet : Nat → Read Nested
  | 0 => failure
  | fuel + 1 => do
    expect '['
    skip
    let negated ← take "^"
    skip
    let dashes ← runAll (· == '-')
    let items : List Nested := dashes.map fun _ => ⟨[(45, 45)], 0⟩
    let bracket ← if items.isEmpty then take "]" else pure false
    skip
    let items := if bracket then [⟨[(93, 93)], 0⟩] else items
    let inner ← readSetItems fuel none items
    return ⟨← negatedIf negated (← closed inner.set), inner.depth + 1⟩
termination_by structural fuel => fuel

/-- Reads the items of a set and its closing bracket. -/
def readSetItems : Nat → Option (SetOp × Nested) → List Nested → Read Nested
  | 0, _, _ => failure
  | fuel + 1, pending, items => do
    skip
    let operator := fun (op : SetOp) => do
      let left ← combine pending items
      readSetItems fuel (some (op, left)) []
    if (← peek) == some '[' then
      match ← readNamed with
      | some set => readSetItems fuel pending (⟨set, 0⟩ :: items)
      | none =>
        let nested ← readSet fuel
        readSetItems fuel pending (nested :: items)
    else if ← take "]" then combine pending items
    else if ← take "&&" then operator .inter
    else if ← take "--" then operator .diff
    else if ← take "~~" then operator .symmDiff
    else
      let set ← readSetItem
      readSetItems fuel pending (⟨set, 0⟩ :: items)
termination_by structural fuel => fuel

end

/-- A part of a pattern with the depth of its nesting, or a change of the flags. -/
inductive Piece where
  | part (p : Pattern) (depth : Nat)
  | setting

/-- The patterns of the parts, in order, and their greatest depth. -/
def parts (pieces : List Piece) : List Pattern × Nat :=
  pieces.foldr (fun piece (ps, depth) =>
    match piece with
    | .part p d => (p :: ps, max depth d)
    | .setting => (ps, depth)) ([], 0)

/-- Pieces one after the other, given in reverse. -/
def inSequence (pieces : List Piece) : Pattern × Nat :=
  let (ps, depth) := parts pieces.reverse
  (seqAll ps, if pieces.length < 2 then depth else depth + 1)

/-- Alternatives, given in reverse. -/
def inAlternation (branches : List (Pattern × Nat)) : Pattern × Nat :=
  let depth := branches.foldl (fun d b => max d b.2) 0
  (altAll (branches.reverse.map Prod.fst), if branches.length < 2 then depth else depth + 1)

/-- Replaces the last piece by its repetition.  A question mark after it asks for fewer times
first, or for more where the flags have it the other way around. -/
def repeatLast (pieces : List Piece) (least : Nat) (most : Option Nat) : Read (List Piece) := do
  match pieces with
  | .part p depth :: rest =>
    let greedy := (← take "?") == (← get).flags.swapGreed
    return .part (p.repeated least most greedy) (depth + 1) :: rest
  | _ => failure

/-- A number in a repetition, with white space around it. -/
def readCount : Read (Option Nat) := do
  modify fun s => { s with rest := s.rest.dropWhile Unicode.isWhiteSpace }
  let digits ← runAll Char.isDigit
  let rest := (← get).rest.dropWhile Unicode.isWhiteSpace
  modify fun s => { s with rest := rest }
  skip
  if digits.isEmpty then return none
  else
    let n : Nat := digits.foldl (fun n c => n * 10 + (c.toNat - 48)) 0
    require (decide (n < 0x100000000))
    return some n

/-- The bounds of a counted repetition after its opening brace. -/
def readBounds : Read (Nat × Option Nat) := do
  skip
  require ((← peek).isSome)
  let least ← readCount
  if ← take "," then
    skip
    require ((← peek).isSome)
    if (← peek) == some '\x7d' then
      match least with
      | some least => return (least, none)
      | none => failure
    else
      match least, ← readCount with
      | some least, some most =>
        require (decide (least ≤ most))
        return (least, some most)
      | _, _ => failure
  else
    match least with
    | some least => return (least, some least)
    | none => failure

/-- The flags after a question mark, up to a colon or a closing parenthesis. -/
def readFlags : Nat → List Char → Bool → Flags → Read Flags
  | 0, _, _, _ => failure
  | fuel + 1, seen, value, flags => do
    match ← peek with
    | none => failure
    | some c =>
      if c = ':' ∨ c = ')' then
        require (seen.head? != some '-')
        return flags
      else
        let _ ← next
        require (!seen.contains c)
        if c = '-' then readFlags fuel (c :: seen) false flags
        else
          let again := readFlags fuel (c :: seen) value
          match c with
          | 'i' => again { flags with anyCase := value }
          | 'm' => again { flags with multiLine := value }
          | 's' => again { flags with dotAll := value }
          | 'U' => again { flags with swapGreed := value }
          | 'u' => again { flags with unicode := value }
          | 'R' => again { flags with returns := value }
          | 'x' => again { flags with spaced := value }
          | _ => failure

/-- Whether a character may stand in a group name. -/
def isNameChar (first : Bool) (c : Char) : Bool :=
  if first then c == '_' || Unicode.isAlphabetic c
  else c == '_' || c == '.' || c == '[' || c == ']' || Unicode.isAlphanumeric c

/-- A group name up to its closing angle bracket, which must be new. -/
def readName : Read Unit := do
  let s ← get
  let (name, rest) := s.rest.span (· != '>')
  match name with
  | [] => failure
  | c :: cs =>
    require (isNameChar true c && cs.all (isNameChar false))
    require (!s.names.contains name)
    match rest with
    | '>' :: rest => set { s with rest := rest, names := name :: s.names }
    | _ => failure

mutual

/-- Reads alternatives up to a closing parenthesis or the end.  `branches` and `pieces` hold
what has been read, in reverse. -/
def readBody : Nat → List (Pattern × Nat) → List Piece → Read (Pattern × Nat)
  | 0, _, _ => failure
  | fuel + 1, branches, pieces => do
    skip
    match ← peek with
    | none => return inAlternation (inSequence pieces :: branches)
    | some ')' => return inAlternation (inSequence pieces :: branches)
    | some '|' => do
      let _ ← next
      readBody fuel (inSequence pieces :: branches) []
    | some '(' => do
      let _ ← next
      let piece ← readGroup fuel
      readBody fuel branches (piece :: pieces)
    | some '[' => do
      let nested ← readSet fuel
      let bytes := !(← get).flags.unicode
      readBody fuel branches (.part (.chars nested.set bytes) nested.depth :: pieces)
    | some '?' => do
      let _ ← next
      let pieces ← repeatLast pieces 0 (some 1)
      readBody fuel branches pieces
    | some '*' => do
      let _ ← next
      let pieces ← repeatLast pieces 0 none
      readBody fuel branches pieces
    | some '+' => do
      let _ ← next
      let pieces ← repeatLast pieces 1 none
      readBody fuel branches pieces
    | some '\x7b' => do
      let _ ← next
      let (least, most) ← readBounds
      expect '\x7d'
      skip
      let pieces ← repeatLast pieces least most
      readBody fuel branches pieces
    | some _ => do
      let p ← readPrimitive
      readBody fuel branches (.part p 0 :: pieces)
termination_by structural fuel => fuel

/-- Reads a group, or a change of the flags, after its opening parenthesis. -/
def readGroup : Nat → Read Piece
  | 0 => failure
  | fuel + 1 => do
    skip
    let flags := (← get).flags
    let restore : Read Unit := modify fun s => { s with flags := flags }
    for look in ["?=", "?!", "?<=", "?<!"] do
      require (!look.toList.isPrefixOf (← get).rest)
    let named ← (do if ← take "?P<" then pure true else take "?<")
    if named then
      readName
      let (p, depth) ← readBody fuel [] []
      expect ')'
      restore
      return .part (.group true p) (depth + 1)
    else if ← take "?" then
      let start := (← get).rest
      let changed ← readFlags (start.length + 1) [] true flags
      modify fun s => { s with flags := changed }
      if ← take ":" then
        let (p, depth) ← readBody fuel [] []
        expect ')'
        restore
        return .part (.group false p) (depth + 1)
      else
        require (start.head? != some ')')
        expect ')'
        return .setting
    else
      let (p, depth) ← readBody fuel [] []
      expect ')'
      restore
      return .part (.group true p) (depth + 1)
termination_by structural fuel => fuel

end

/-- How deep a pattern may be nested. -/
def maxDepth : Nat := 250

end Reader

/-- The pattern that a text describes, unless it is none or becomes too large. -/
def ofText? (text : String) : Option Pattern :=
  let cs := text.toList
  match (Reader.readBody (3 * cs.length + 3) [] []).run ⟨cs, {}, []⟩ with
  | some ((p, depth), s) =>
    if s.rest.isEmpty && decide (depth ≤ Reader.maxDepth) && p.fits then some p else none
  | none => none

end Pattern
end Amend
