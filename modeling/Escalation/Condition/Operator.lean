/-!
# Kinds of conditions and operators

What a condition reads and how it compares, with the words that rule files use for them. The four
families of operators (existence, text, number, time) overlap in nothing; equality, membership and
truth belong to none.
-/

namespace Escalation

/-- The part of a scope that a condition reads. It decides what the name of the field means. -/
inductive ConditionKind where
  | messageContent
  | userAttribute
  | contextField
  | entity
  | metadata
  | triggerResult
  | timeBased
deriving DecidableEq, Repr, Inhabited

namespace ConditionKind

def all : List ConditionKind :=
  [messageContent, userAttribute, contextField, entity, metadata, triggerResult, timeBased]

def name : ConditionKind → String
  | messageContent => "message_content"
  | userAttribute => "user_attribute"
  | contextField => "context_field"
  | entity => "entity"
  | metadata => "metadata"
  | triggerResult => "trigger_result"
  | timeBased => "time_based"

def ofName? (word : String) : Option ConditionKind :=
  all.find? (·.name == word)

end ConditionKind

/-- How a condition compares the field with its operand. Four groups of operators behave alike:
those on existence, on texts, on numbers and on the time of day. -/
inductive Operator where
  | equals
  | notEquals
  | contains
  | notContains
  | startsWith
  | endsWith
  | regexMatches
  | greaterThan
  | lessThan
  | greaterEqual
  | lessEqual
  | inRange
  | inList
  | notInList
  | isTrue
  | isFalse
  | exists
  | notExists
  | before
  | after
  | between
deriving DecidableEq, Repr, Inhabited

namespace Operator

def all : List Operator :=
  [equals, notEquals, contains, notContains, startsWith, endsWith, regexMatches, greaterThan,
    lessThan, greaterEqual, lessEqual, inRange, inList, notInList, isTrue, isFalse, .exists,
    notExists, before, after, between]

def name : Operator → String
  | equals => "EQUALS"
  | notEquals => "NOT_EQUALS"
  | contains => "CONTAINS"
  | notContains => "NOT_CONTAINS"
  | startsWith => "STARTS_WITH"
  | endsWith => "ENDS_WITH"
  | regexMatches => "REGEX_MATCHES"
  | greaterThan => "GREATER_THAN"
  | lessThan => "LESS_THAN"
  | greaterEqual => "GREATER_EQUAL"
  | lessEqual => "LESS_EQUAL"
  | inRange => "IN_RANGE"
  | inList => "IN_LIST"
  | notInList => "NOT_IN_LIST"
  | isTrue => "IS_TRUE"
  | isFalse => "IS_FALSE"
  | .exists => "EXISTS"
  | notExists => "NOT_EXISTS"
  | before => "BEFORE"
  | after => "AFTER"
  | between => "BETWEEN"

def ofName? (word : String) : Option Operator :=
  all.find? (·.name == word)

def isExistence : Operator → Bool
  | .exists | notExists => true
  | _ => false

def isText : Operator → Bool
  | contains | notContains | startsWith | endsWith | regexMatches => true
  | _ => false

def isNumeric : Operator → Bool
  | greaterThan | lessThan | greaterEqual | lessEqual | inRange => true
  | _ => false

def isTime : Operator → Bool
  | before | after | between => true
  | _ => false

end Operator

end Escalation
