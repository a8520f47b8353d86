import Escalation.Registry
import Escalation.Rule.Match

/-!
# Outcomes

What evaluating a rule set on a scope gives: the first enabled rule that matches, with its actions,
the traces of the rules that were evaluated, and the errors met on the way. On the fast path the
walk ends at the match; the exhaustive path goes through all rules and names the same match.
-/

namespace Escalation

/-- The outcome of an evaluation: the rule that matched, if one did, with its priority and
actions, and how it came to that. Traces and errors are those of the rules that were evaluated, in
order. -/
structure Outcome where
  matchedRule : Option String
  matchedPriority : Option Int
  actions : List Action
  traces : List RuleTrace
  errors : List Diagnostic
  version : UInt64
  /-- Whether the outcome was kept from an earlier evaluation. -/
  cacheHit : Bool
  /-- How long the evaluation took, where it was measured. -/
  micros : Nat
deriving Inhabited

namespace Outcome

def none (version : UInt64) : Outcome :=
  ⟨.none, .none, [], [], [], version, false, 0⟩

def isMatch (o : Outcome) : Bool :=
  o.matchedRule.isSome

def millis (o : Outcome) : Float :=
  Number.ofInt o.micros / 1000.0

/-- Whether two outcomes are the same but for the times and for being kept. -/
def same (a b : Outcome) : Bool :=
  a.matchedRule == b.matchedRule && a.matchedPriority == b.matchedPriority &&
    RuleTrace.sameAll Action.same a.actions b.actions && a.errors == b.errors &&
    a.version == b.version && RuleTrace.sameAll RuleTrace.same a.traces b.traces

def withTrace (o : Outcome) (m : RuleMatch) (rule : Rule) : Outcome :=
  { o with
    traces := m.trace rule :: o.traces
    errors := m.diagnostic.toList ++ o.errors }

/-- The outcome with a rule as the match. -/
def withMatch (o : Outcome) (rule : Rule) : Outcome :=
  { o with
    matchedRule := some rule.name
    matchedPriority := some rule.priority
    actions := rule.actions }

end Outcome

namespace RuleSet

/-- The outcome of rules in order. On the fast path the first rule that matches ends the walk. On
the exhaustive one every rule is evaluated, and a rule that matches takes the place of a match
behind it, so that both name the same. -/
def walkRules (thoroughness : Thoroughness) (scope : Scope) (version : UInt64) :
    List Rule → Outcome
  | [] => .none version
  | rule :: rules =>
    let m := rule.run thoroughness scope
    let rest :=
      if m.matched && thoroughness = .fast then .none version
      else walkRules thoroughness scope version rules
    let o := rest.withTrace m rule
    if m.matched then o.withMatch rule else o

/-- The outcome of the enabled rules of a set, at its version. -/
def walk (set : RuleSet) (thoroughness : Thoroughness) (scope : Scope) : Outcome :=
  walkRules thoroughness scope set.version (set.rules.filter (·.enabled))

end RuleSet

end Escalation
