import Escalation.Condition.Compare
import Escalation.Condition.Lookup

/-!
# Evaluating conditions

`Condition.evaluate` is the reading of a condition in a scope: the value of the field, and whether
the condition holds or why that cannot be decided. It depends on nothing else.

A `PatternStore` keeps the patterns that have been compiled. `PatternStore.evaluate` takes them
from there and stores those it had to compile; what is stored under a key is what the key compiles
to, by the type of the store. How patterns are compiled is a parameter of all this, which is
`PatternKey.compile?` unless another is named.
-/

namespace Escalation

namespace Condition

/-- The value that a condition saw, and whether the condition holds. The value is told also where
the verdict is an error. -/
structure Reading where
  actual : Option Value
  verdict : Except ConditionFault Bool

/-- Whether the comparison with the time of day holds. -/
def testTime (c : Condition) (now : TimeOfDay) : Except ConditionFault Bool :=
  match c.operator with
  | .between =>
    match TimeWindow.ofValue c.operand with
    | .ok window => .ok (window.contains now)
    | .error cause => .error (.time cause)
  | operator =>
    match TimeOfDay.ofValue c.operand with
    | .ok time =>
      .ok (if operator = .before then now.minutes < time.minutes else time.minutes ≤ now.minutes)
    | .error cause => .error (.time cause)

/-- Whether the comparison of a value with the operand holds. The operand has the shape that the
operator needs, so the last case is met by no condition that has been checked. -/
def testValue (compile : PatternKey → Option Pattern) (c : Condition) (value : Value) :
    Except ConditionFault Bool :=
  let cs := c.caseSensitive
  match c.operator, c.operand with
  | .equals, operand => .ok (value.equals cs operand)
  | .notEquals, operand => .ok (!value.equals cs operand)
  | .contains, operand => compareContains cs value ((needles? operand).getD [])
  | .notContains, operand =>
    (compareContains cs value ((needles? operand).getD [])).map (!·)
  | .startsWith, operand => compareStart cs value ((needles? operand).getD [])
  | .endsWith, operand => compareEnd cs value ((needles? operand).getD [])
  | .regexMatches, .text s =>
    match compile ⟨cs, s⟩ with
    | some pattern => comparePattern pattern value
    | none => .error (.pattern s)
  | .greaterThan, .number y => compareNumber (fun x y => y < x) value y
  | .lessThan, .number y => compareNumber (fun x y => x < y) value y
  | .greaterEqual, .number y => compareNumber (fun x y => y ≤ x) value y
  | .lessEqual, .number y => compareNumber (fun x y => x ≤ y) value y
  | .inRange, .list [.number low, .number high] => do
    let x ← fieldNumber value
    return low ≤ x && x ≤ high
  | .inList, .list items => .ok (compareMember cs value items)
  | .notInList, .list items => .ok (!compareMember cs value items)
  | .isTrue, _ => .ok value.truthy
  | .isFalse, _ => .ok (!value.truthy)
  | operator, operand => .error (.operand operator .comparable operand.kind)

/-- Whether the comparison holds, before it is negated. Existence needs no value; what is checked
first fails first. -/
def test (compile : PatternKey → Option Pattern) (c : Condition) (field : Field)
    (actual : Option Value) (now : TimeOfDay) : Except ConditionFault Bool := do
  c.checkPairing
  match c.operator with
  | .exists => return actual.isSome
  | .notExists => return actual.isNone
  | operator =>
    c.checkOperand
    if operator.isTime then c.testTime now
    else
      match actual with
      | none => .error (.missing field)
      | some value => c.testValue compile value

/-- The reading of a condition, patterns being compiled as given. -/
def evaluateWith (compile : PatternKey → Option Pattern) (scope : Scope) (c : Condition) :
    Reading :=
  match c.resolve with
  | .error cause => ⟨none, .error (.field cause)⟩
  | .ok field =>
    let actual := field.lookup scope
    ⟨actual, (c.test compile field actual scope.now).map (· != c.negate)⟩

/-- The reading of a condition in a scope: the value of the field, and whether the condition
holds, negation included. An error is not negated. -/
def evaluate (scope : Scope) (c : Condition) : Reading :=
  c.evaluateWith PatternKey.compile? scope

/-- The pattern that evaluating the condition compiles: one is compiled when the condition is
otherwise sound and the field has a value, whatever that is. -/
def patternNeeded? (scope : Scope) (c : Condition) : Option PatternKey :=
  match c.patternKey?, c.checkPairing, c.resolve with
  | some key, .ok _, .ok field => if (field.lookup scope).isSome then some key else none
  | _, _, _ => none

end Condition

open Condition in
structure PatternStore (compile : PatternKey → Option Pattern := PatternKey.compile?) where
  entries : List (PatternKey × Pattern)
  compiled : ∀ e ∈ entries, compile e.1 = some e.2

namespace PatternStore

open Condition (PatternKey)

variable {compile : PatternKey → Option Pattern}

def empty (compile : PatternKey → Option Pattern := PatternKey.compile?) : PatternStore compile :=
  ⟨[], by simp⟩

instance : Inhabited (PatternStore compile) := ⟨empty compile⟩

def size (store : PatternStore compile) : Nat :=
  store.entries.length

def find? (store : PatternStore compile) (key : PatternKey) : Option Pattern :=
  (store.entries.find? (·.1 == key)).map (·.2)

/-- The pattern of a key, from the store or compiled and stored. A text that does not compile
leaves the store as it is. -/
def fetch (store : PatternStore compile) (key : PatternKey) :
    Option Pattern × PatternStore compile :=
  match store.find? key with
  | some pattern => (some pattern, store)
  | none =>
    match h : compile key with
    | some pattern =>
      (some pattern, ⟨(key, pattern) :: store.entries, by
        intro e he
        rcases List.mem_cons.1 he with rfl | he
        · exact h
        · exact store.compiled e he⟩)
    | none => (none, store)

/-- The reading of a condition with patterns from the store, and the store after it. The pattern
is fetched before the comparison, and only if the evaluation comes to it. -/
def evaluate (store : PatternStore compile) (scope : Scope) (c : Condition) :
    Condition.Reading × PatternStore compile :=
  match c.patternNeeded? scope with
  | none => (c.evaluateWith compile scope, store)
  | some key =>
    let (pattern, store) := store.fetch key
    (c.evaluateWith (fun _ => pattern) scope, store)

def evaluateAll (store : PatternStore compile) (scope : Scope) :
    List Condition → List Condition.Reading × PatternStore compile
  | [] => ([], store)
  | c :: cs =>
    let (reading, store) := store.evaluate scope c
    let (readings, store) := store.evaluateAll scope cs
    (reading :: readings, store)

end PatternStore

end Escalation
