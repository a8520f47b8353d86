import Escalation.Engine

/-!
# Testing and profiling rules

A test evaluates all conditions of one rule, registered or not, enabled or not, and tells what is
invalid about it. A profile evaluates every enabled rule of a list by descending priority, so it
names the rule that an engine over these rules would pick.
-/

namespace Escalation

/-- What testing a rule gives: how its conditions came out, and whether a registry would take it.
Both are told at once, for a rule that no registry takes may be tested all the same. -/
structure RuleTest where
  ruleName : String
  priority : Int
  enabled : Bool
  matched : Bool
  conditions : List ConditionTrace
  error : Option String
  /-- Why a registry would refuse the rule. -/
  invalid : Option String
  actions : List Action
  /-- How long the evaluation took, where it was measured. -/
  micros : Nat

def RuleTest.perCondition (t : RuleTest) : List Bool :=
  t.conditions.map (·.result)

open Condition in
/-- A rule tested in a scope, with every condition evaluated, if patterns are compiled as given. -/
def Rule.testWith (compile : PatternKey → Option Pattern) (rule : Rule) (scope : Scope) :
    RuleTest :=
  let m := rule.runWith compile .exhaustive scope
  { ruleName := rule.name
    priority := rule.priority
    enabled := rule.enabled
    matched := m.matched
    conditions := m.conditions
    error := m.diagnostic.map (·.message)
    invalid := match rule.validateWith compile with
      | .ok _ => none
      | .error cause => some cause.message
    actions := rule.actions
    micros := 0 }

def Rule.test (rule : Rule) (scope : Scope) : RuleTest :=
  rule.testWith Condition.PatternKey.compile? scope

structure RuleProfile where
  name : String
  priority : Int
  matched : Bool
  /-- How long it took, where it was measured. -/
  millis : Float
  error : Option String
deriving Inhabited

structure Profile where
  totalMillis : Float
  perRule : List RuleProfile
  /-- The first rule that matched. -/
  firstMatch : Option String
deriving Inhabited

namespace Profile

/-- The enabled rules by descending priority, in the order of the list where it is the same. -/
def order (rules : List Rule) : List Rule :=
  (rules.filter (·.enabled)).mergeSort fun a b => b.priority ≤ a.priority

def ofRule (scope : Scope) (rule : Rule) : RuleProfile :=
  let m := rule.run .exhaustive scope
  ⟨rule.name, rule.priority, m.matched, 0.0, m.diagnostic.map (·.message)⟩

/-- The profile of a list of rules: what each enabled rule gives, in the order in which an engine
over these rules would evaluate them, and the first that matched. -/
def ofRules (scope : Scope) (rules : List Rule) : Profile :=
  let perRule := (order rules).map (ofRule scope)
  ⟨0.0, perRule, (perRule.find? (·.matched)).map (·.name)⟩

def slowest (p : Profile) : List RuleProfile :=
  p.perRule.mergeSort fun a b => totalOrderKey b.millis ≤ totalOrderKey a.millis

end Profile

namespace Engine

def profile (e : Engine) (event : Event) : Profile :=
  .ofRules (e.scope event) e.registry.active.rules

def testRule (e : Engine) (rule : Rule) (event : Event) : RuleTest :=
  rule.test (e.scope event)

end Engine

end Escalation
