import Escalation.Rule

/-!
# Faults

The faults of conditions, actions and rules together, and those that a host reports in its own
words. `EngineFault` adds what a registry refuses and the failure of a rule's condition during
evaluation, `RouterFault` why a router cannot be built, reloaded or changed.
-/

namespace Escalation

/-- A fault of a condition, an action or a rule, by which a caller can tell what was wrong without
reading the message. -/
inductive Fault where
  | condition (cause : ConditionFault)
  | action (cause : ActionFault)
  | rule (cause : RuleFault)
  /-- A fault in the words of a host. -/
  | reported (kind : FaultKind) (detail : String)
deriving Repr

def Fault.kind : Fault → FaultKind
  | .condition cause => cause.kind
  | .action _ => .actionParameter
  | .rule _ => .invalidRule
  | .reported kind _ => kind

def Fault.message : Fault → String
  | .condition cause => cause.message
  | .action cause => cause.message
  | .rule cause => cause.message
  | .reported kind detail => kind.message detail

/-- An entry of the errors of a result: the rule, the place of the condition in it if one is to
blame, and the message. -/
structure Diagnostic where
  ruleName : String
  conditionIndex : Option Nat
  message : String
deriving DecidableEq, Repr

/-- A failure of the engine: a change of the rules that is refused, or a condition that could not
be decided. -/
inductive EngineFault where
  | duplicateRule (name : String)
  | ruleNotFound (name : String)
  /-- A condition of a rule could not be decided. -/
  | evaluation (rule : String) (index : Nat) (cause : Fault)
  | fault (cause : Fault)
deriving Repr

def EngineFault.message : EngineFault → String
  | .duplicateRule name => "Duplicate rule: " ++ name
  | .ruleNotFound name => "Rule not found: " ++ name
  | .evaluation rule index cause =>
    s!"Evaluation error in rule '{rule}' condition #{index}: {cause.message}"
  | .fault cause => cause.message

def EngineFault.diagnostic? : EngineFault → Option Diagnostic
  | .evaluation rule index cause => some ⟨rule, some index, cause.message⟩
  | _ => none

/-- A failure of a router: it has no sources, one of them does not yield a valid book, or the
engine refuses the rules. -/
inductive RouterFault where
  | noSources
  /-- A source cannot be read, or what it holds is no rule book. -/
  | load (source : String)
  /-- The rule book of a source is invalid. -/
  | invalid (source : String) (cause : RuleFault)
  | engine (cause : EngineFault)
  /-- A fault of a rule that no registry was asked about. -/
  | rule (cause : Fault)
deriving Repr

def RouterFault.message : RouterFault → String
  | .noSources => "Configuration error: No rule sources configured. Cannot reload."
  | .load source => "Failed to load rules from " ++ source
  | .invalid source cause => s!"Validation error: {source}: {cause.message}"
  | .engine cause => "Runtime error: " ++ cause.message
  | .rule cause => "Rule error: " ++ cause.message

end Escalation
