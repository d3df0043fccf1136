/-
Texts in a fixed format: network addresses, numbers of payment cards, mail addresses and locators
of resources, and points in time.  Addresses and times have readers, which take what they can from
the front of a text and return the rest; locators have patterns.
-/
import Amend.Pattern.Basic
import Amend.Pattern.Set

namespace Amend
namespace Format
/-! ## Network addresses -/

namespace Address

def octetDigit (c : Char) : Bool := c.isDigit

def groupDigit (c : Char) : Bool := c.isDigit || ('a' ≤ c && c ≤ 'f') || ('A' ≤ c && c ≤ 'F')

def decimal (digits : List Char) : Nat := digits.foldl (fun n c => n * 10 + (c.toNat - 48)) 0

/-- A decimal number up to 255 without a leading zero. -/
def readOctet (cs : List Char) : Option (List Char) :=
  let digits := cs.takeWhile octetDigit
  if digits.isEmpty || decide (3 < digits.length) then none
  else if digits.head? == some '0' && decide (1 < digits.length) then none
  else if 255 < decimal digits then none
  else some (cs.drop digits.length)

/-- One to four hexadecimal digits. -/
def readGroup (cs : List Char) : Option (List Char) :=
  let digits := cs.takeWhile groupDigit
  if digits.isEmpty || decide (4 < digits.length) then none else some (cs.drop digits.length)

/-- Passes a separator, except before the first part. -/
def afterSeparator (separator : Char) (first : Bool) (cs : List Char) : Option (List Char) :=
  if first then some cs
  else match cs with
    | c :: rest => if c = separator then some rest else none
    | [] => none

/-- A number of octets with points between them. -/
def readOctets : Nat → Bool → List Char → Option (List Char)
  | 0, _, cs => some cs
  | n + 1, first, cs => do readOctets n false (← readOctet (← afterSeparator '.' first cs))

def readV4 (cs : List Char) : Option (List Char) := readOctets 4 true cs

/-- What has been read of a sequence of groups. -/
structure Groups where
  count : Nat
  /-- Whether the last two groups were written as four octets. -/
  octets : Bool
  rest : List Char

/-- As many groups as there are, at most `limit`, with colons between them.  The last two may be
written as four octets, which end the sequence. -/
def readGroups : Nat → Nat → List Char → Groups
  | 0, count, cs => ⟨count, false, cs⟩
  | limit + 1, count, cs =>
    match afterSeparator ':' (count == 0) cs with
    | none => ⟨count, false, cs⟩
    | some start =>
      match if limit = 0 then none else readV4 start with
      | some rest => ⟨count + 2, true, rest⟩
      | none =>
        match readGroup start with
        | some rest => readGroups limit (count + 1) rest
        | none => ⟨count, false, cs⟩

/-- Eight groups, or fewer around two colons that stand for the missing ones. -/
def readV6 (cs : List Char) : Option (List Char) :=
  let front := readGroups 8 0 cs
  if front.count = 8 then some front.rest
  else if front.octets then none
  else match front.rest with
    | ':' :: ':' :: rest => some (readGroups (7 - front.count) 0 rest).rest
    | _ => none

def endsText (rest : Option (List Char)) : Bool := rest == some []

def isV4 (text : String) : Bool := endsText (readV4 text.toList)

def isV6 (text : String) : Bool := endsText (readV6 text.toList)

def isAny (text : String) : Bool := isV4 text || isV6 text

end Address

/-! ## Numbers of payment cards: 13 to 19 digits whose last one is a check digit -/

namespace CardNumber

def isSeparator (c : Char) : Bool := c == ' ' || c == '-'

def digitValue (c : Char) : Nat := c.toNat - '0'.toNat

/-- The digits without separators, unless there is another character among them. -/
def digits? (cs : List Char) : Option (List Nat) :=
  let kept := cs.filter (!isSeparator ·)
  if kept.all Char.isDigit then some (kept.map digitValue) else none

/-- The sum of the digits of twice a digit. -/
def doubled (d : Nat) : Nat := if 9 < 2 * d then 2 * d - 9 else 2 * d

/-- The sum of digits, given from the last to the first, of which every second one is doubled,
the first of them if `double` holds. -/
def checksum (double : Bool) : List Nat → Nat
  | [] => 0
  | d :: rest => (if double then doubled d else d) + checksum (!double) rest

def isDigits (digits : List Nat) : Bool :=
  decide (13 ≤ digits.length) && decide (digits.length ≤ 19)
    && checksum false digits.reverse % 10 == 0

def isText (text : String) : Bool := (digits? text.toList).any isDigits

end CardNumber

/-! ## Mail addresses and locators -/

namespace Locator

open Unicode (Ranges)
open Pattern

def letters : Ranges := .ofText "41-5a 61-7a"

/-- Letters, digits and `.`, `_`, `%`, `+`, `-`. -/
def localChars : Ranges := .ofText "25 2b 2d 2e 30-39 41-5a 5f 61-7a"

/-- Letters, digits and hyphens. -/
def labelChars : Ranges := .ofText "2d 30-39 41-5a 61-7a"

/-- A local part, an at sign, and labels with points between them, of which the last has two
letters or more. -/
def email : Pattern :=
  seqAll [.assert .textStart, some1 (.one localChars), char '@', some1 (.one labelChars),
    many (seqAll [char '.', some1 (.one labelChars)]), char '.', .rep (.one letters) 2 none true,
    .assert .textEnd]

/-- Every character but white space, slash, question mark and hash. -/
def hostChars : Ranges :=
  Ranges.complement (Ranges.union Unicode.whiteSpace (.ofText "23 2f 3f"))

def visibleChars : Ranges := Ranges.complement Unicode.whiteSpace

def tailStart : Ranges := .ofText "23 2f 3f"

/-- A scheme, a host with a point inside, perhaps a port, and perhaps a path, a query or a
fragment. -/
def url : Pattern :=
  seqAll [.assert .textStart, altAll [literal "http", literal "https", literal "ftp"],
    literal "://", some1 (.one hostChars), char '.', some1 (.one hostChars),
    optional (seqAll [char ':', some1 (.one Unicode.Category.decimalNumber)]),
    optional (seqAll [.one tailStart, many (.one visibleChars)]), .assert .textEnd]

def isEmail (text : String) : Bool := email.isMatch text.toList

def isUrl (text : String) : Bool := url.isMatch text.toList

end Locator

/-! ## Points in time, as milliseconds since 1970 and as text -/

namespace Timestamp

/-- The first millisecond of the year -262143 and the last one of the year 262142. -/
def isMilliseconds (n : Int) : Bool :=
  decide (-8334601228800000 ≤ n) && decide (n ≤ 8210266876799999)

def isLeapYear (year : Nat) : Bool :=
  year % 4 == 0 && (year % 100 != 0 || year % 400 == 0)

def daysInMonth (year month : Nat) : Nat :=
  if month = 2 then (if isLeapYear year then 29 else 28)
  else if month = 4 ∨ month = 6 ∨ month = 9 ∨ month = 11 then 30
  else 31

/-- A fixed number of decimal digits. -/
def readDigits : Nat → Nat → List Char → Option (Nat × List Char)
  | 0, value, cs => some (value, cs)
  | n + 1, value, c :: cs =>
    if c.isDigit then readDigits n (value * 10 + (c.toNat - '0'.toNat)) cs else none
  | _ + 1, _, [] => none

def readChar (wanted : List Char) : List Char → Option (List Char)
  | c :: cs => if wanted.contains c then some cs else none
  | [] => none

/-- A date with four digits for the year. -/
def readDate (cs : List Char) : Option (List Char) := do
  let (year, cs) ← readDigits 4 0 cs
  let (month, cs) ← readDigits 2 0 (← readChar ['-'] cs)
  let (day, cs) ← readDigits 2 0 (← readChar ['-'] cs)
  if 1 ≤ month ∧ month ≤ 12 ∧ 1 ≤ day ∧ day ≤ daysInMonth year month then some cs else none

/-- Decimals of a second, if there are any. -/
def readFraction : List Char → Option (List Char)
  | '.' :: cs =>
    if cs.head?.any Char.isDigit then some (cs.dropWhile Char.isDigit) else none
  | cs => some cs

/-- A time of day.  Any minute may have a second 60. -/
def readTime (cs : List Char) : Option (List Char) := do
  let (hour, cs) ← readDigits 2 0 cs
  let (minute, cs) ← readDigits 2 0 (← readChar [':'] cs)
  let (second, cs) ← readDigits 2 0 (← readChar [':'] cs)
  if hour ≤ 23 ∧ minute ≤ 59 ∧ second ≤ 60 then readFraction cs else none

/-- The offset from universal time, shorter than a day.  Its sign may be a true minus. -/
def readOffset (cs : List Char) : Option (List Char) :=
  match readChar ['Z', 'z'] cs with
  | some rest => some rest
  | none => do
    let (hours, cs) ← readDigits 2 0 (← readChar ['+', '-', '\u2212'] cs)
    let (minutes, cs) ← readDigits 2 0 (← readChar [':'] cs)
    if hours ≤ 23 ∧ minutes ≤ 59 then some cs else none

/-- Whether a text is a date, a time and an offset. -/
def isText (text : String) : Bool :=
  let rest := do
    let cs ← readDate text.toList
    readOffset (← readTime (← readChar ['T', 't', ' '] cs))
  rest == some []

end Timestamp
end Format
end Amend
