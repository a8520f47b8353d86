import Escalation.Fault

/-!
# The registry

The registered rules in the order in which they are evaluated: by descending priority, and among
equal priorities by registration. A number given at registration fixes the place; an update keeps
it. Every successful change raises the version by one; a call that fails changes nothing.

A `RuleSet` is what evaluation reads, and stays as it is when the registry changes.
-/

namespace Escalation

/-- A rule with the number of its registration. Numbers only grow, by one for each rule that is
registered, so they fit in words (`Registry.sequences_fit`). -/
structure RegisteredRule where
  rule : Rule
  sequence : Nat
deriving Inhabited

/-- Whether a rule is evaluated before another: its priority is higher, or the same and it was
registered before. -/
def RegisteredRule.precedes (a b : RegisteredRule) : Bool :=
  b.rule.priority < a.rule.priority ||
    (a.rule.priority == b.rule.priority && a.sequence < b.sequence)

/-- Registered rules in the order of evaluation, at one version. An evaluation reads a set from
its beginning to its end, whatever happens to the registry in the meantime. -/
structure RuleSet where
  entries : List RegisteredRule
  version : UInt64
deriving Inhabited

namespace RuleSet

def empty : RuleSet :=
  ⟨[], 0⟩

def rules (set : RuleSet) : List Rule :=
  set.entries.map (·.rule)

def size (set : RuleSet) : Nat :=
  set.entries.length

def find? (set : RuleSet) (name : String) : Option Rule :=
  set.rules.find? (·.name == name)

def contains (set : RuleSet) (name : String) : Bool :=
  set.rules.any (·.name == name)

/-- Whether a rule, enabled or not, reads the clock. -/
def hasTimeConditions (set : RuleSet) : Bool :=
  set.rules.any Rule.hasTimeConditions

def readsTimestamps (set : RuleSet) : Bool :=
  set.rules.any Rule.readsTimestamps

end RuleSet

def place (entry : RegisteredRule) : List RegisteredRule → List RegisteredRule
  | [] => [entry]
  | e :: entries => if entry.precedes e then entry :: e :: entries else e :: place entry entries

def arrange (entries : List RegisteredRule) : List RegisteredRule :=
  entries.foldr place []

/-- A registry: the rules that are evaluated, and the number that the next registration gets. A
number is never given twice, also when rules are removed or all are replaced. -/
structure Registry where
  active : RuleSet
  nextSequence : Nat
deriving Inhabited

namespace Registry

def empty : Registry :=
  ⟨.empty, 0⟩

def version (r : Registry) : UInt64 :=
  r.active.version

/-- The registry with other rules, put in their order, at the next version. All changes go through
here, so the version tells whether the rules may have changed. -/
def publish (r : Registry) (entries : List RegisteredRule) : Registry :=
  { r with active := ⟨arrange entries, r.active.version + 1⟩ }

def checkRule (rule : Rule) : Except EngineFault Unit :=
  match rule.validate with
  | .ok _ => .ok ()
  | .error cause => .error (.fault (.rule cause))

/-- The registry with a rule more, behind those of its priority. The rule must be valid and its
name free. -/
def add (r : Registry) (rule : Rule) : Except EngineFault Registry := do
  checkRule rule
  if r.active.contains rule.name then .error (.duplicateRule rule.name)
  else
    .ok { r.publish (r.active.entries ++ [⟨rule, r.nextSequence⟩]) with
      nextSequence := r.nextSequence + 1 }

def substitute (name : String) (rule : Rule) (entries : List RegisteredRule) :
    List RegisteredRule :=
  entries.map fun e => if e.rule.name == name then { e with rule } else e

/-- The registry with another rule in place of the one of that name. It keeps the number of that
rule, and so its place among rules of one priority. It must be valid, and its name the same or
free. -/
def update (r : Registry) (name : String) (rule : Rule) : Except EngineFault Registry := do
  checkRule rule
  if !r.active.contains name then .error (.ruleNotFound name)
  else if rule.name != name && r.active.contains rule.name then .error (.duplicateRule rule.name)
  else .ok (r.publish (substitute name rule r.active.entries))

/-- The registry without the rule of that name, if there is one. -/
def remove (r : Registry) (name : String) : Registry :=
  if r.active.contains name then r.publish (r.active.entries.filter (·.rule.name != name)) else r

def number : Nat → List Rule → List RegisteredRule
  | _, [] => []
  | sequence, rule :: rules => ⟨rule, sequence⟩ :: number (sequence + 1) rules

def checkAll (seen : List String) : List Rule → Except EngineFault Unit
  | [] => .ok ()
  | rule :: rules => do
    checkRule rule
    if seen.contains rule.name then .error (.duplicateRule rule.name)
    else checkAll (rule.name :: seen) rules

/-- The registry with these rules in place of all, registered in the order of the list. They must
be valid and their names different; nothing is replaced if one of them is not. -/
def replaceAll (r : Registry) (rules : List Rule) : Except EngineFault Registry := do
  checkAll [] rules
  .ok { r.publish (number r.nextSequence rules) with
    nextSequence := r.nextSequence + rules.length }

def ofRules (rules : List Rule) : Except EngineFault Registry :=
  empty.replaceAll rules

end Registry

end Escalation
