import Escalation.Rule

/-!
# Rule books

The rules of one document, with what it asks of the cache. `RuleBook.validate` accepts a book of
valid rules whose names are all different; `RuleBook.warnings` tells of catch-all rules that leave
no chance to rules of lower priority.
-/

namespace Escalation

/-- The rules of a document, with what it asks of the cache. It is loaded as a whole, and valid if
its rules can be registered together. -/
structure RuleBook where
  rules : List Rule := []
  enableCaching : Bool := true
  /-- How many seconds a result is kept. -/
  cacheTtlSeconds : Nat := 300
  /-- How many results are kept; any number if this is zero. -/
  cacheMaxEntries : Nat := 10000
deriving Inhabited

namespace RuleBook

def validateRules (seen : List String) : List Rule → Except RuleFault Unit
  | [] => .ok ()
  | rule :: rules => do
    rule.validate
    if seen.contains rule.name then .error (.repeatedName rule.name)
    else validateRules (rule.name :: seen) rules

def validate (book : RuleBook) : Except RuleFault Unit :=
  validateRules [] book.rules

/-- The lowest priority of the rules. -/
def lowest? (book : RuleBook) : Option Int :=
  (book.rules.map (·.priority)).min?

/-- A catch-all rule above the lowest priority: what stands below it never matches. -/
structure Starving where
  name : String
  priority : Int
  lowest : Int
deriving DecidableEq, Repr

def Starving.message (w : Starving) : String :=
  s!"catch-all rule '{w.name}' has priority {w.priority} above the lowest priority {w.lowest}; " ++
    "rules below it will never match"

/-- The enabled catch-all rules above the lowest priority, in the order of the book. A catch-all
rule at the lowest priority is not among them, though rules of that priority may stand behind it. -/
def warnings (book : RuleBook) : List Starving :=
  match book.lowest? with
  | none => []
  | some lowest =>
    (book.rules.filter fun rule => rule.enabled && rule.isCatchAll && lowest < rule.priority).map
      fun rule => ⟨rule.name, rule.priority, lowest⟩

end RuleBook

end Escalation
