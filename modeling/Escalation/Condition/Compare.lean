import Escalation.Condition
import Escalation.Text.Lowercase
import Escalation.Text.Search

/-!
# Comparing values

How the operators compare the value of a field with an operand. Texts are compared in lower case
unless case counts; a number or a truth value equals a text that denotes it; a list holds a text if
one of its items equals it. An operator for texts reads numbers and truth values as they are shown.
-/

namespace Escalation

/-- The characters of a text, in lower case unless case counts. -/
def foldText (caseSensitive : Bool) (s : String) : List Char :=
  if caseSensitive then s.toList else Text.lowercaseChars s.toList

/-- Whether a text denotes a number. -/
def denotesNumber (s : String) (x : Float) : Bool :=
  (Number.read? (Text.trimChars s.toList)).any (· == x)

def denotesBool (s : String) (b : Bool) : Bool :=
  Text.equalsIgnoringAsciiCase (Text.trim s) (if b then "true" else "false")

mutual
/-- Whether the value of a field equals an operand. A text equals a number or a truth value if it
denotes it, and texts are compared without regard to case unless it counts. Lists are equal item
by item. Objects equal nothing, themselves included. -/
def Value.equals (caseSensitive : Bool) : Value → Value → Bool
  | .text s, .text t => foldText caseSensitive s == foldText caseSensitive t
  | .number x, .number y => x == y
  | .bool a, .bool b => a == b
  | .null, .null => true
  | .number x, .text s => denotesNumber s x
  | .text s, .number x => denotesNumber s x
  | .bool b, .text s => denotesBool s b
  | .text s, .bool b => denotesBool s b
  | .list items, .list others => equalItems caseSensitive items others
  | _, _ => false
termination_by structural value => value
def equalItems (caseSensitive : Bool) : List Value → List Value → Bool
  | [], [] => true
  | a :: items, b :: others => a.equals caseSensitive b && equalItems caseSensitive items others
  | _, _ => false
termination_by structural items => items
end

namespace Condition

def fieldText (operator : Operator) : Value → Except ConditionFault String
  | .text s => .ok s
  | .number x => .ok (Value.displayNumber x)
  | .bool b => .ok (if b then "true" else "false")
  | value => .error (.notText operator value.kind)

def fieldNumber (value : Value) : Except ConditionFault Float :=
  match value.number? with
  | some x => .ok x
  | none => .error (.notNumber value.kind value.display)

/-- Whether a list has an item that equals one of the texts, or another value has one of the texts
in it. -/
def compareContains (caseSensitive : Bool) (value : Value) (needles : List String) :
    Except ConditionFault Bool :=
  match value with
  | .list items =>
    .ok (items.any fun item => needles.any fun n => item.equals caseSensitive (.text n))
  | value => do
    let text ← fieldText .contains value
    return needles.any fun n =>
      Text.occursIn (foldText caseSensitive n) (foldText caseSensitive text)

def compareStart (caseSensitive : Bool) (value : Value) (needles : List String) :
    Except ConditionFault Bool := do
  let text ← fieldText .startsWith value
  return needles.any fun n =>
    Text.startsWith (foldText caseSensitive text) (foldText caseSensitive n)

def compareEnd (caseSensitive : Bool) (value : Value) (needles : List String) :
    Except ConditionFault Bool := do
  let text ← fieldText .endsWith value
  return needles.any fun n =>
    Text.endsWith (foldText caseSensitive text) (foldText caseSensitive n)

def comparePattern (pattern : Pattern) (value : Value) : Except ConditionFault Bool := do
  return pattern.occursIn (← fieldText .regexMatches value)

/-- Whether a value is among the items, or, if it is a list, one of its items is. -/
def compareMember (caseSensitive : Bool) (value : Value) (items : List Value) : Bool :=
  let member (v : Value) := items.any (v.equals caseSensitive)
  match value with
  | .list values => values.any member
  | value => member value

def compareNumber (compare : Float → Float → Bool) (value : Value) (y : Float) :
    Except ConditionFault Bool := do
  return compare (← fieldNumber value) y

end Condition

end Escalation
