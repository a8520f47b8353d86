import Escalation.Pattern.CharSet

/-!
# Patterns and the texts they occur in

A pattern is a regular expression. `Pattern.occursIn` says whether it matches somewhere in a text.
It reads the text once and keeps the patterns of which the rest is still to be matched: `step` says
what is left of a pattern after one character, and `nullable` whether a pattern matches the empty
text between two characters, which assertions make depend on the place.
-/

namespace Escalation

/-- What an assertion asks of a place in the text. Whether a character is one of words depends on
the flags, so the assertions that ask it carry the set. -/
inductive Assertion where
  | textStart
  | textEnd
  | lineStart
  | lineEnd
  /-- Line ends are line feeds, carriage returns and pairs of them. -/
  | anyLineStart
  | anyLineEnd
  /-- Exactly one of the neighbours is a character of words. -/
  | wordBoundary (word : CharSet)
  | notWordBoundary (word : CharSet)
  | wordStart (word : CharSet)
  | wordEnd (word : CharSet)
  | wordStartHalf (word : CharSet)
  | wordEndHalf (word : CharSet)
deriving DecidableEq, Repr

/-- A regular expression, its flags resolved. Groups leave no trace, for nobody asks what they
held, and a repetition is neither greedy nor lazy, for nobody asks where a match ends. -/
inductive Pattern where
  | empty
  | chars (set : CharSet)
  | assert (assertion : Assertion)
  | seq (a b : Pattern)
  | either (a b : Pattern)
  | repeated (a : Pattern) (least : Nat) (most : Option Nat)
deriving DecidableEq, Repr

structure Place where
  before : Option Char
  next : Option Char
deriving DecidableEq, Repr

/-- Whether an assertion holds at a place. -/
def Assertion.holds (place : Place) : Assertion → Bool
  | .textStart => place.before.isNone
  | .textEnd => place.next.isNone
  | .lineStart => place.before.all (· == '\n')
  | .lineEnd => place.next.all (· == '\n')
  | .anyLineStart =>
    place.before.all fun c => c == '\n' || (c == '\r' && place.next != some '\n')
  | .anyLineEnd =>
    place.next.all fun c => c == '\r' || (c == '\n' && place.before != some '\r')
  | .wordBoundary word => place.before.any word.contains != place.next.any word.contains
  | .notWordBoundary word => place.before.any word.contains == place.next.any word.contains
  | .wordStart word => !place.before.any word.contains && place.next.any word.contains
  | .wordEnd word => place.before.any word.contains && !place.next.any word.contains
  | .wordStartHalf word => !place.before.any word.contains
  | .wordEndHalf word => !place.next.any word.contains

namespace Pattern

/-- Whether the pattern matches the empty text at a place. -/
def nullable (place : Place) : Pattern → Bool
  | empty => true
  | chars _ => false
  | assert assertion => assertion.holds place
  | seq a b => a.nullable place && b.nullable place
  | either a b => a.nullable place || b.nullable place
  | repeated a least _ => least == 0 || a.nullable place

def andThen : Pattern → Pattern → Pattern
  | empty, b => b
  | a, b => seq a b

/-- What is left of the pattern when the next character of the place has been read. A repetition
whose body matches nothing there may have been through all the rounds that it needs. -/
def step (place : Place) (c : Char) : Pattern → List Pattern
  | empty => []
  | chars set => if set.contains c then [empty] else []
  | assert _ => []
  | seq a b =>
    (a.step place c).map (·.andThen b) ++ (if a.nullable place then b.step place c else [])
  | either a b => a.step place c ++ b.step place c
  | repeated a least most =>
    if most == some 0 then []
    else
      let least := if a.nullable place then 0 else least - 1
      (a.step place c).map (·.andThen (repeated a least (most.map (· - 1))))

/-- Whether a pattern that has begun, or one that begins at this place or later, matches. What is
left of patterns that have begun is kept without repetitions. -/
def search (pattern : Pattern) (before : Option Char) (begun : List Pattern) : List Char → Bool
  | [] => (pattern :: begun).any (·.nullable ⟨before, none⟩)
  | c :: cs =>
    let place : Place := ⟨before, some c⟩
    let live := pattern :: begun
    live.any (·.nullable place) ||
      search pattern (some c) (live.flatMap (·.step place c)).eraseDups cs

/-- Whether the pattern matches somewhere in the text. The text is read once, whatever the
pattern. -/
def occursIn (pattern : Pattern) (text : String) : Bool :=
  pattern.search none [] text.toList

end Pattern

end Escalation
