import Escalation.Condition
import Escalation.Rule.Action

/-!
# Rules

A rule has a name, a priority, conditions that must all hold, and actions. `Rule.validate` accepts
a rule with a name whose conditions and actions are all valid; the first that is not is reported
with its place.
-/

namespace Escalation

/-- Notes about a rule, which nothing evaluates. -/
structure RuleNotes where
  description : Option String := none
  owner : Option String := none
  tags : List String := []
deriving DecidableEq, Repr, Inhabited

/-- A rule: if all conditions hold, its actions are to be applied. The name is what hosts call it
by, and no registry holds two rules of one name. -/
structure Rule where
  name : String
  /-- Rules of higher priority are evaluated first. -/
  priority : Int := 0
  /-- A rule that is not enabled is passed over. -/
  enabled : Bool := true
  /-- All of these must hold; a rule without any matches always. -/
  conditions : List Condition := []
  actions : List Action := []
  notes : RuleNotes := {}
deriving Inhabited

/-- Why a rule or a list of rules cannot be registered. The condition or action at fault is told
by its place in the rule. -/
inductive RuleFault where
  | blankName
  | condition (rule : String) (index : Nat) (cause : ConditionFault)
  | action (rule : String) (index : Nat) (cause : ActionFault)
  /-- Two rules of a rule book have one name. -/
  | repeatedName (name : String)
deriving Repr

def RuleFault.detail : RuleFault → String
  | .blankName => "rule name must not be empty"
  | .condition rule index cause => s!"rule '{rule}' condition #{index}: {cause.message}"
  | .action rule index cause => s!"rule '{rule}' action #{index}: {cause.message}"
  | .repeatedName name => s!"duplicate rule name '{name}'"

def RuleFault.message (fault : RuleFault) : String :=
  FaultKind.invalidRule.message fault.detail

namespace Rule

/-- Whether the rule matches whatever it is evaluated on. -/
def isCatchAll (rule : Rule) : Bool :=
  rule.conditions.isEmpty

def hasTimeConditions (rule : Rule) : Bool :=
  rule.conditions.any (·.kind == .timeBased)

def readsTimestamps (rule : Rule) : Bool :=
  rule.conditions.any fun c =>
    match c.resolve with
    | .ok (.message .timestamp) => true
    | _ => false

/-- The first fault among items counted from a number on. -/
def firstFault {α ε : Type} (check : α → Except ε Unit) (fault : Nat → ε → RuleFault) :
    Nat → List α → Except RuleFault Unit
  | _, [] => .ok ()
  | index, a :: as =>
    match check a with
    | .ok _ => firstFault check fault (index + 1) as
    | .error cause => .error (fault index cause)

open Condition in
/-- Whether the rule can be registered, if patterns are compiled as given: it has a name, and its
conditions and actions are valid. Conditions are checked before actions, and the first fault is
told. -/
def validateWith (compile : PatternKey → Option Pattern) (rule : Rule) :
    Except RuleFault Unit := do
  if Text.isBlankText rule.name then .error .blankName else .ok ()
  firstFault (Condition.validateWith compile) (.condition rule.name) 0 rule.conditions
  firstFault Action.check (.action rule.name) 0 rule.actions

def validate (rule : Rule) : Except RuleFault Unit :=
  rule.validateWith Condition.PatternKey.compile?

end Rule

end Escalation
