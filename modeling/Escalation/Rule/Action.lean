import Escalation.Fault.Kind
import Escalation.Text.Search
import Escalation.Value

/-!
# Actions

What a matched rule does to a decision and its metadata. An action names its parameters; one whose
parameter is blank has no effect when it is applied and makes its rule invalid, which
`Action.check` decides.
-/

namespace Escalation

/-- How urgent a handoff is. -/
inductive Priority where
  | low | medium | high | urgent
deriving DecidableEq, Repr

namespace Priority

def all : List Priority :=
  [low, medium, high, urgent]

def name : Priority → String
  | low => "low"
  | medium => "medium"
  | high => "high"
  | urgent => "urgent"

/-- The same word in capitals, which documents may use too. -/
def capitalName : Priority → String
  | low => "LOW"
  | medium => "MEDIUM"
  | high => "HIGH"
  | urgent => "URGENT"

def ofName? (word : String) : Option Priority :=
  all.find? fun p => p.name == word || p.capitalName == word

def rank : Priority → Nat
  | low => 0
  | medium => 1
  | high => 2
  | urgent => 3

end Priority

/-- Who a conversation is handed to. -/
inductive Assignment where
  | agent (id : String)
  | queue (id : String)
  | department (id : String)
deriving DecidableEq, Repr

namespace Assignment

def kindName : Assignment → String
  | agent _ => "agent"
  | queue _ => "queue"
  | department _ => "department"

def id : Assignment → String
  | agent id | queue id | department id => id

def display (a : Assignment) : String :=
  a.kindName ++ ":" ++ a.id

end Assignment

/-- An action: something to be done to a decision and its metadata when a rule has matched. -/
inductive Action where
  | assignAgent (id : String)
  | assignQueue (id : String)
  | assignDepartment (name : String)
  | setPriority (priority : Priority)
  | addTags (tags : List String)
  | removeTags (tags : List String)
  | setCustomField (key : String) (value : Value)
  /-- The caller takes the fallback instead of the assignment. -/
  | routeToFallback (reason : Option String)
deriving Inhabited

inductive ActionKind where
  | assignAgent | assignQueue | assignDepartment | setPriority | addTags | removeTags
  | setCustomField | routeToFallback
deriving DecidableEq, Repr

def ActionKind.name : ActionKind → String
  | assignAgent => "assign_to_agent"
  | assignQueue => "assign_to_queue"
  | assignDepartment => "assign_to_department"
  | setPriority => "set_priority"
  | addTags => "add_tags"
  | removeTags => "remove_tags"
  | setCustomField => "set_custom_field"
  | routeToFallback => "route_to_fallback"

inductive ActionParameter where
  | agentId | queueId | department | tags | key
deriving DecidableEq, Repr

def ActionParameter.name : ActionParameter → String
  | agentId => "agent_id"
  | queueId => "queue_id"
  | department => "department"
  | tags => "tags"
  | key => "key"

/-- The entry of the metadata that custom fields are kept in. -/
def customFieldsName : String := "custom_fields"

/-- Why an action cannot be applied. A blank parameter is found before the action is applied to
anything; whether the custom fields can be written is seen only then. -/
inductive ActionFault where
  | blank (kind : ActionKind) (parameter : ActionParameter)
  /-- The metadata's custom fields are something else than an object. -/
  | customFields (found : Value.Kind)
deriving DecidableEq, Repr

def ActionFault.detail : ActionFault → String
  | .blank kind parameter => s!"{kind.name}: '{parameter.name}' must not be empty"
  | .customFields found =>
    s!"set_custom_field: metadata '{customFieldsName}' is a {found.name}, not an object"

def ActionFault.message (fault : ActionFault) : String :=
  FaultKind.actionParameter.message fault.detail

namespace Action

def kind : Action → ActionKind
  | assignAgent _ => .assignAgent
  | assignQueue _ => .assignQueue
  | assignDepartment _ => .assignDepartment
  | setPriority _ => .setPriority
  | addTags _ => .addTags
  | removeTags _ => .removeTags
  | setCustomField _ _ => .setCustomField
  | routeToFallback _ => .routeToFallback

def assignment? : Action → Option Assignment
  | assignAgent id => some (.agent id)
  | assignQueue id => some (.queue id)
  | assignDepartment name => some (.department name)
  | _ => none

/-- The parameter that is blank, if there is one. A list of tags is blank when it is empty or one
of the tags is blank. -/
def blank? : Action → Option ActionParameter
  | assignAgent id => if Text.isBlankText id then some .agentId else none
  | assignQueue id => if Text.isBlankText id then some .queueId else none
  | assignDepartment name => if Text.isBlankText name then some .department else none
  | addTags tags | removeTags tags =>
    if tags.isEmpty || tags.any Text.isBlankText then some .tags else none
  | setCustomField key _ => if Text.isBlankText key then some .key else none
  | setPriority _ | routeToFallback _ => none

def check (action : Action) : Except ActionFault Unit :=
  match action.blank? with
  | some parameter => .error (.blank action.kind parameter)
  | none => .ok ()

/-- Whether two actions are the same, their values compared as values are. -/
def same : Action → Action → Bool
  | assignAgent a, assignAgent b => a == b
  | assignQueue a, assignQueue b => a == b
  | assignDepartment a, assignDepartment b => a == b
  | setPriority a, setPriority b => a == b
  | addTags a, addTags b => a == b
  | removeTags a, removeTags b => a == b
  | setCustomField k v, setCustomField l w => k == l && v.same w
  | routeToFallback a, routeToFallback b => a == b
  | _, _ => false

end Action

end Escalation
