/-
Text patterns and where they match.  A pattern leads from places of a text to later places; a
text matches when the pattern leads anywhere from any of its places.  Sets of places are kept
without repetition, so that a repeated pattern stops as soon as it leads nowhere new.
-/
import Amend.Unicode.Character

namespace Amend

open Unicode (Ranges)

/-- What a pattern can ask of a place between two characters. -/
inductive Pattern.Assertion where
  | textStart
  | textEnd
  | lineStart
  | lineEnd
  /-- A line start where lines end by carriage returns as well. -/
  | lineStartReturn
  | lineEndReturn
  /-- A place between a character of a word and another, for `ascii` words or all. -/
  | wordBoundary (ascii : Bool)
  | notWordBoundary (ascii : Bool)
  | wordStart (ascii : Bool)
  | wordEnd (ascii : Bool)
  /-- A place with no word character before it. -/
  | wordStartHalf (ascii : Bool)
  /-- A place with no word character after it. -/
  | wordEndHalf (ascii : Bool)
deriving DecidableEq

/-- A text pattern. -/
inductive Pattern where
  | empty
  /-- One character of a set, which is a set of bytes where Unicode is switched off. -/
  | chars (set : Ranges) (bytes : Bool)
  | assert (a : Pattern.Assertion)
  | seq (first second : Pattern)
  | alt (first second : Pattern)
  /-- At least `least` times and at most `most` times, without end when that is missing.  Whether
  more times are tried first makes no difference to what matches, but to how patterns are built. -/
  | rep (p : Pattern) (least : Nat) (most : Option Nat) (greedy : Bool)
  /-- A part in parentheses, which may have a number. -/
  | group (numbered : Bool) (p : Pattern)

namespace Pattern

/-- A place in a text: the character before it, the characters after it, and their number. -/
structure Place where
  before : Option Char
  after : List Char
  left : Nat
  left_eq : left = after.length

namespace Place

/-- The place behind the next character, if it is in the set. -/
def step (set : Ranges) : Place → Option Place
  | ⟨_, c :: cs, left, h⟩ =>
    if set.contains c.toNat then some ⟨some c, cs, left - 1, by simp [h]⟩ else none
  | ⟨_, [], _, _⟩ => none

/-- All places of a text after a character. -/
def allFrom (before : Option Char) : List Char → List Place
  | [] => [⟨before, [], 0, rfl⟩]
  | c :: cs => ⟨before, c :: cs, (c :: cs).length, rfl⟩ :: allFrom (some c) cs

end Place

def isAsciiWord (c : Char) : Bool := c.isAlphanum || c == '_'

def isWord (ascii : Bool) (c : Char) : Bool :=
  if ascii || decide (c.toNat < 128) then isAsciiWord c else Unicode.word.contains c.toNat

namespace Assertion

def wordBefore (ascii : Bool) (p : Place) : Bool := p.before.any (isWord ascii)

def wordAfter (ascii : Bool) (p : Place) : Bool := p.after.head?.any (isWord ascii)

def holds (p : Place) : Assertion → Bool
  | .textStart => p.before.isNone
  | .textEnd => p.after.isEmpty
  | .lineStart => p.before.isNone || p.before == some '\n'
  | .lineEnd => p.after.isEmpty || p.after.head? == some '\n'
  | .lineStartReturn =>
    p.before.isNone || p.before == some '\n'
      || (p.before == some '\r' && p.after.head? != some '\n')
  | .lineEndReturn =>
    p.after.isEmpty || p.after.head? == some '\r'
      || (p.after.head? == some '\n' && p.before != some '\r')
  | .wordBoundary ascii => wordBefore ascii p != wordAfter ascii p
  | .notWordBoundary ascii => wordBefore ascii p == wordAfter ascii p
  | .wordStart ascii => !wordBefore ascii p && wordAfter ascii p
  | .wordEnd ascii => wordBefore ascii p && !wordAfter ascii p
  | .wordStartHalf ascii => !wordBefore ascii p
  | .wordEndHalf ascii => !wordAfter ascii p

end Assertion

/-- Whether a place is among others.  Places of one text differ in what follows them. -/
def known (places : List Place) (p : Place) : Bool :=
  places.any fun q => q.left == p.left

/-- Adds the places that are not there yet. -/
def merge (places : List Place) : List Place → List Place
  | [] => places
  | p :: ps => if known places p then merge places ps else merge (places ++ [p]) ps

/-- Applies a step a number of times. -/
def times (f : List Place → List Place) : Nat → List Place → List Place
  | 0, places => places
  | n + 1, places => if places.isEmpty then [] else times f n (f places)

/-- Adds what a step leads to from `fresh`, over and over, at most `n` times and until nothing
is new. -/
def spread (f : List Place → List Place) : Nat → List Place → List Place → List Place
  | 0, reached, _ => reached
  | n + 1, reached, fresh =>
    let next := (f fresh).filter (!known reached ·)
    if next.isEmpty then reached else spread f n (reached ++ next) next

/-- One more than the number of places from the first of the given ones on. -/
def roundsFor (places : List Place) : Nat :=
  places.foldl (fun n p => max n (p.left + 2)) 0

/-- The places to which a pattern leads. -/
def reach : Pattern → List Place → List Place
  | .empty, places => places
  | .chars set _, places => places.filterMap (Place.step set)
  | .assert a, places => places.filter fun p => a.holds p
  | .seq first second, places => reach second (reach first places)
  | .alt first second, places => merge (reach first places) (reach second places)
  | .rep p least most _, places =>
    let start := times (fun ps => reach p ps) least places
    let rounds := match most with
      | some most => min (most - least) (roundsFor start)
      | none => roundsFor start
    spread (fun ps => reach p ps) rounds start start
  | .group _ p, places => reach p places

/-- Whether a pattern matches somewhere in a text. -/
def isMatch (p : Pattern) (text : List Char) : Bool :=
  !(reach p (Place.allFrom none text)).isEmpty

/-- Whether a pattern matches nothing but the empty text. -/
def onlyEmpty : Pattern → Bool
  | .empty => true
  | .chars _ _ => false
  | .assert _ => true
  | .seq first second => onlyEmpty first && onlyEmpty second
  | .alt first second => onlyEmpty first && onlyEmpty second
  | .rep p _ most _ => most == some 0 || onlyEmpty p
  | .group _ p => onlyEmpty p

/-- A pattern over and over.  One that matches the empty text alone gains nothing from a second
time. -/
def repeated (p : Pattern) (least : Nat) (most : Option Nat) (greedy : Bool) : Pattern :=
  if p.onlyEmpty then .rep p (min least 1) (some (min (most.getD 1) 1)) greedy
  else .rep p least most greedy

/-- The characters from one to another. -/
def charRange (first last : Char) : Ranges := [(first.toNat, last.toNat)]

/-- One character of a set. -/
def one (set : Ranges) : Pattern := .chars set false

def char (c : Char) : Pattern := .one (charRange c c)

/-- Patterns one after the other. -/
def seqAll : List Pattern → Pattern
  | [] => .empty
  | [p] => p
  | p :: ps => .seq p (seqAll ps)

/-- One of several patterns. -/
def altAll : List Pattern → Pattern
  | [] => .empty
  | [p] => p
  | p :: ps => .alt p (altAll ps)

/-- A fixed text. -/
def literal (text : String) : Pattern := seqAll (text.toList.map char)

def optional (p : Pattern) : Pattern := .rep p 0 (some 1) true

def many (p : Pattern) : Pattern := .rep p 0 none true

def some1 (p : Pattern) : Pattern := .rep p 1 none true

end Pattern
end Amend
