import Cel.Pattern.Classes

/-! # Patterns

Regular expressions over characters. A pattern denotes a relation between places of a text: a match
leads from the place where it starts to the place where it ends. Matching follows all starting
places at once: a set of places is a bit mask, one character shifts the mask past the places where
the character stands, and repetition accumulates places until nothing is added. So matching is total
and its cost does not explode.
-/

namespace Cel

namespace Pattern

open Text (CodeSet)

/-- A set of characters. -/
inductive CharClass where
  | none
  | range (low high : Nat)
  | table (set : CodeSet)
  | complement (inner : CharClass)
  | union (left right : CharClass)
  | inter (left right : CharClass)
  /-- The characters that equal one of the class up to case. -/
  | ignoringCase (inner : CharClass)
deriving DecidableEq, Repr

namespace CharClass

def has : CharClass → Char → Bool
  | none, _ => false
  | range low high, c => low ≤ c.toNat && c.toNat ≤ high
  | table set, c => set.has c
  | complement inner, c => !inner.has c
  | union left right, c => left.has c || right.has c
  | inter left right, c => left.has c && right.has c
  | ignoringCase inner, c => (caseVariants c).any inner.has

def single (c : Char) : CharClass := range c.toNat c.toNat

def any : CharClass := complement none

def diff (left right : CharClass) : CharClass := inter left (complement right)

end CharClass

/-- A condition on a place of a text. -/
inductive Assertion where
  | textStart | textEnd | lineStart | lineEnd | wordBoundary | notWordBoundary
  | wordStart | wordEnd | wordStartHalf | wordEndHalf
deriving DecidableEq, Repr

end Pattern

open Pattern in
/-- A regular expression. -/
inductive Pattern where
  | empty
  | char (set : CharClass)
  | assert (condition : Assertion)
  | seq (first second : Pattern)
  | alt (left right : Pattern)
  /-- From `least` up to `most` times, without an upper bound if there is none. -/
  | repeated (inner : Pattern) (least : Nat) (most : Option Nat)
deriving DecidableEq, Repr

namespace Pattern

/-- The mask of the places, from the first one on, that satisfy a condition on the characters
before and after them. -/
def placesWhere (condition : Option Char → Option Char → Bool) : Option Char → List Char → Nat
  | before, [] => if condition before none then 1 else 0
  | before, c :: rest =>
    (if condition before (some c) then 1 else 0) + 2 * placesWhere condition (some c) rest

def isWordChar (c : Char) : Bool := wordChars.has c

/-- Whether a condition holds between two neighbouring characters. -/
def Assertion.holds (condition : Assertion) (before after : Option Char) : Bool :=
  let wordBefore := before.any isWordChar
  let wordAfter := after.any isWordChar
  match condition with
  | .textStart => before.isNone
  | .textEnd => after.isNone
  | .lineStart => before.isNone || before == some '\n'
  | .lineEnd => after.isNone || after == some '\n'
  | .wordBoundary => wordBefore != wordAfter
  | .notWordBoundary => wordBefore == wordAfter
  | .wordStart => !wordBefore && wordAfter
  | .wordEnd => wordBefore && !wordAfter
  | .wordStartHalf => !wordBefore
  | .wordEndHalf => !wordAfter

/-- Apply a step `count` times, or until it changes nothing any more. -/
def times (step : Nat → Nat) : (count : Nat) → Nat → Nat
  | 0, places => places
  | count + 1, places =>
    let next := step places
    if next = places then places else times step count next

/-- Add the places that up to `count` further steps lead to. -/
def spread (step : Nat → Nat) : (count : Nat) → Nat → Nat
  | 0, places => places
  | count + 1, places =>
    let more := places ||| step places
    if more = places then places else spread step count more

/-- The places where matches end that start at one of the given places. -/
def advance (text : List Char) : Pattern → Nat → Nat
  | empty, places => places
  | char set, places => 2 * (places &&& placesWhere (fun _ after => after.any set.has) none text)
  | assert condition, places => places &&& placesWhere condition.holds none text
  | seq first second, places => advance text second (advance text first places)
  | alt left right, places => advance text left places ||| advance text right places
  | repeated inner least most, places =>
    let step := fun places => advance text inner places
    spread step (most.elim (text.length + 1) (· - least)) (times step least places)

/-- Whether the pattern matches somewhere in a text. -/
def matchesIn (p : Pattern) (text : String) : Bool :=
  advance text.toList p ((1 <<< (text.length + 1)) - 1) ≠ 0

end Pattern

end Cel
