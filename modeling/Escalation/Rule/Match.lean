import Escalation.Condition.Evaluate
import Escalation.Fault

/-!
# Matching rules

A rule matches when all its conditions hold. `Rule.run` evaluates them in order, either all of them
or, on the fast path, up to the first that does not hold; what each condition saw and gave is a
`ConditionTrace`. A condition that could not be decided counts as not holding, and the first such
one is the error of the rule.
-/

namespace Escalation

/-- What a condition saw and gave: the condition in words and in parts, the value of its field,
and the result. A condition that could not be decided has no result but an error. -/
structure ConditionTrace where
  index : Nat
  expression : String
  kind : ConditionKind
  operator : Operator
  expected : Value
  actual : Option Value
  negated : Bool
  /-- Whether the condition held; not if it could not be decided. -/
  result : Bool
  error : Option String

def Value.sameOption : Option Value → Option Value → Bool
  | none, none => true
  | some a, some b => a.same b
  | _, _ => false

def ConditionTrace.same (a b : ConditionTrace) : Bool :=
  a.index == b.index && a.expression == b.expression && a.kind == b.kind &&
    a.operator == b.operator && a.expected.same b.expected && Value.sameOption a.actual b.actual &&
    a.negated == b.negated && a.result == b.result && a.error == b.error

def Condition.trace (c : Condition) (index : Nat) (reading : Condition.Reading) :
    ConditionTrace where
  index := index
  expression := c.describe
  kind := c.kind
  operator := c.operator
  expected := c.operand
  actual := reading.actual
  negated := c.negate
  result := match reading.verdict with
    | .ok holds => holds
    | .error _ => false
  error := match reading.verdict with
    | .ok _ => none
    | .error cause => some cause.message

def ConditionTrace.diagnostic? (t : ConditionTrace) (rule : String) : Option Diagnostic :=
  t.error.map fun message => ⟨rule, some t.index, message⟩

/-- How many conditions of a rule are evaluated. Both answer the same; they differ in how much
there is to tell. -/
inductive Thoroughness where
  /-- Up to the first that does not hold. -/
  | fast
  /-- All of them. -/
  | exhaustive
deriving DecidableEq, Repr

/-- The traces of a rule's conditions, from which all that is told of the rule is read off. -/
structure RuleMatch where
  ruleName : String
  conditions : List ConditionTrace

namespace RuleMatch

def matched (m : RuleMatch) : Bool :=
  m.conditions.all (·.result)

/-- The first condition that could not be decided. -/
def diagnostic (m : RuleMatch) : Option Diagnostic :=
  m.conditions.findSome? (·.diagnostic? m.ruleName)

def perCondition (m : RuleMatch) : List Bool :=
  m.conditions.map (·.result)

end RuleMatch

namespace Rule

open Condition (PatternKey)

/-- The traces of conditions counted from a number on, if patterns are compiled as given. On the
fast path the trace of the first condition that does not hold is the last. -/
def tracesWith (compile : PatternKey → Option Pattern) (thoroughness : Thoroughness)
    (scope : Scope) : Nat → List Condition → List ConditionTrace
  | _, [] => []
  | index, c :: cs =>
    let trace := c.trace index (c.evaluateWith compile scope)
    if thoroughness = .fast && !trace.result then [trace]
    else trace :: tracesWith compile thoroughness scope (index + 1) cs

def runWith (compile : PatternKey → Option Pattern) (thoroughness : Thoroughness) (scope : Scope)
    (rule : Rule) : RuleMatch :=
  ⟨rule.name, tracesWith compile thoroughness scope 0 rule.conditions⟩

def run (thoroughness : Thoroughness) (scope : Scope) (rule : Rule) : RuleMatch :=
  rule.runWith PatternKey.compile? thoroughness scope

end Rule

/-- What a rule gave, with the traces of its conditions. -/
structure RuleTrace where
  ruleName : String
  priority : Int
  matched : Bool
  conditions : List ConditionTrace
  error : Option String
  /-- How long the evaluation took, where it was measured. -/
  micros : Nat

namespace RuleTrace

def perCondition (t : RuleTrace) : List Bool :=
  t.conditions.map (·.result)

def sameAll {α : Type} (same : α → α → Bool) : List α → List α → Bool
  | [], [] => true
  | a :: as, b :: bs => same a b && sameAll same as bs
  | _, _ => false

/-- Whether two traces are the same but for the time they took. -/
def same (a b : RuleTrace) : Bool :=
  a.ruleName == b.ruleName && a.priority == b.priority && a.matched == b.matched &&
    sameAll ConditionTrace.same a.conditions b.conditions && a.error == b.error

end RuleTrace

def RuleMatch.trace (m : RuleMatch) (rule : Rule) : RuleTrace where
  ruleName := rule.name
  priority := rule.priority
  matched := m.matched
  conditions := m.conditions
  error := m.diagnostic.map (·.message)
  micros := 0

end Escalation
