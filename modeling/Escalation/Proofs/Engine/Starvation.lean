import Escalation.Proofs.Engine.EntryPoints
import Escalation.Proofs.Engine.Reach
import Escalation.Proofs.Registry.Acceptance
import Escalation.Proofs.Rule.Told
import Escalation.Rule.Book

/-!
# Rules that a catch-all rule starves

A rule without conditions holds for everyone, so an evaluation ends at it at the latest, and what
stands behind it is never looked at (`RuleSet.Starves.walk`). A book of rules warns of this before
the rules are registered, and by the priorities alone: an enabled catch-all rule is named if its
priority is not the lowest of the book (`RuleBook.announced_iff`).

The two notions differ in one case. A rule starves those of its own priority that are registered
after it, and if that priority is the lowest there is no warning (`tied_unannounced`). So a book
names every rule that starves others but for those of the lowest priority, who share it with all
that they starve (`starved_announced`). In the other direction there is no such law: a catch-all rule
is named also if all rules below it are disabled.
-/

namespace Escalation

variable {book : RuleBook} {scope : Scope} {c r : Rule}

/-! ## What a book says -/

namespace RuleBook

/-- **The rules of an accepted book may be registered together.** -/
theorem admissible (accepted : book.validate = .ok ()) : Registry.Admissible book.rules :=
  validateRules_ok_iff.mp accepted

/-- A book with rules has a lowest priority, and it is that of a rule. -/
theorem exists_lowest (mem : r ∈ book.rules) :
    ∃ lowest, book.lowest? = some lowest ∧ lowest ≤ r.priority ∧
      ∃ rule ∈ book.rules, rule.priority = lowest := by
  have own : r.priority ∈ book.rules.map (·.priority) := List.mem_map_of_mem mem
  obtain ⟨lowest, found⟩ := Option.isSome_iff_exists.mp (List.isSome_min?_of_mem own)
  obtain ⟨among, least⟩ := List.min?_eq_some_iff.mp found
  exact ⟨lowest, found, least _ own, List.mem_map.mp among⟩

/-- What is warned of is an enabled catch-all rule above the lowest priority. -/
theorem mem_warnings {w : Starving} : w ∈ book.warnings ↔
    book.lowest? = some w.lowest ∧ ∃ rule ∈ book.rules, rule.enabled = true ∧
      rule.isCatchAll = true ∧ w.lowest < rule.priority ∧ rule.name = w.name ∧
        rule.priority = w.priority := by
  unfold warnings
  cases book.lowest? with
  | none => simp
  | some lowest =>
    simp only [List.mem_map, List.mem_filter, Bool.and_eq_true, decide_eq_true_eq, Option.some.injEq]
    constructor
    · rintro ⟨rule, ⟨mem, ⟨enabled, everyone⟩, above⟩, rfl⟩
      exact ⟨rfl, rule, mem, enabled, everyone, above, rfl, rfl⟩
    · rintro ⟨rfl, rule, mem, enabled, everyone, above, name, priority⟩
      refine ⟨rule, ⟨mem, ⟨enabled, everyone⟩, above⟩, ?_⟩
      rw [name, priority]

/-- **A book names an enabled catch-all rule exactly if it has a rule of lower priority.** -/
theorem announced_iff (accepted : book.validate = .ok ()) (mem : c ∈ book.rules)
    (enabled : c.enabled = true) (everyone : c.isCatchAll = true) :
    (∃ w ∈ book.warnings, w.name = c.name) ↔ ∃ rule ∈ book.rules, rule.priority < c.priority := by
  constructor
  · rintro ⟨w, warned, named⟩
    obtain ⟨lowest, rule, own, -, -, above, name, -⟩ := mem_warnings.mp warned
    cases (admissible accepted).eq_of_name own mem (name.trans named)
    obtain ⟨least, found, -, low, among, eq⟩ := exists_lowest mem
    have same : least = w.lowest := Option.some.inj (found.symm.trans lowest)
    exact ⟨low, among, by omega⟩
  · rintro ⟨rule, own, below⟩
    obtain ⟨lowest, found, least, -⟩ := exists_lowest own
    refine ⟨⟨c.name, c.priority, lowest⟩, mem_warnings.mpr ?_, rfl⟩
    exact ⟨found, c, mem, enabled, everyone, by simp only; omega, rfl, rfl⟩

/-- **What a book says of a rule** that is evaluated before another. -/
structure Warns (book : RuleBook) (c r : Rule) : Prop where
  /-- The book names it exactly if there is a rule of lower priority. -/
  named : (∃ w ∈ book.warnings, w.name = c.name) ↔ ∃ rule ∈ book.rules, rule.priority < c.priority
  /-- If the book does not, the two share the lowest priority. -/
  silent : (∀ w ∈ book.warnings, w.name ≠ c.name) →
    r.priority = c.priority ∧ ∀ rule ∈ book.rules, c.priority ≤ rule.priority

end RuleBook

/-! ## What a catch-all rule does to those behind it -/

/-- A rule without conditions holds in every scope. -/
theorem Rule.holds_of_isCatchAll (h : c.isCatchAll = true) : c.holds scope = true := by
  rw [holds, List.isEmpty_iff.mp h, List.all_nil]

/-- **A rule starves another**: it is enabled, holds for everyone and is evaluated before it. -/
structure RuleSet.Starves (set : RuleSet) (c r : Rule) : Prop where
  enabled : c.enabled = true
  everyone : c.isCatchAll = true
  before : [c, r].Sublist set.rules

/-- **A walk does not come to a rule that is starved.** The rules split before it, and the walk ends
in the first part. -/
theorem RuleSet.Starves.walk {set : RuleSet} (h : set.Starves c r)
    (names : (set.rules.map (·.name)).Nodup) (scope : Scope) :
    (set.walk .fast scope).matchedRule ≠ some r.name ∧
      ∀ t ∈ (set.walk .fast scope).traces, t.ruleName ≠ r.name := by
  obtain ⟨front, behind, split, first, second⟩ := List.cons_sublist_iff.mp h.before
  rw [List.singleton_sublist] at second
  rw [split, List.map_append] at names
  have absent : r.name ∉ (front.filter (·.enabled)).map (·.name) := fun present =>
    (List.nodup_append.mp names).2.2 _ ((List.filter_sublist.map _).mem present) _
      (List.mem_map_of_mem second) rfl
  have stops : ∃ rule ∈ front.filter (·.enabled), rule.holds scope = true :=
    ⟨c, List.mem_filter.mpr ⟨first, h.enabled⟩, Rule.holds_of_isCatchAll h.everyone⟩
  have told : (set.walk .fast scope).ToldBy .fast scope (front.filter (·.enabled)) := by
    rw [RuleSet.walk, split, List.filter_append, walkRules_append stops]
    exact walkRules_told _ _
  constructor
  · intro matched
    obtain ⟨rule, own, name⟩ := told.matched _ matched
    exact absent (List.mem_map.mpr ⟨rule, own, name.symm⟩)
  · intro t mem name
    obtain ⟨rule, own, rfl⟩ := told.traces t mem
    exact absent (List.mem_map.mpr ⟨rule, own, name⟩)

/-! ## Engines -/

namespace Engine

open Registry (Change)

variable {e : Engine}

/-- **An engine passes a rule by** on an event: no answer tells of it, and neither the outcome of
all rules nor the profile names it as the match. -/
structure PassesBy (e : Engine) (now : Nat) (event : Event) (name : String) : Prop where
  matched : ∀ o, (e.evaluate now event).1 = .ok o → o.matchedRule ≠ some name
  traced : ∀ o, (e.evaluate now event).1 = .ok o → ∀ t ∈ o.traces, t.ruleName ≠ name
  all : (e.evaluateAll event).matchedRule ≠ some name
  firstMatch : (e.profile event).firstMatch ≠ some name

/-- Without changes the rules stay the same along a run. -/
theorem run_registry_unchanged {past later : List Step} (unchanged : changes (past ++ later) = []) :
    (e.run past).registry = e.registry := by
  rw [changes, List.filterMap_append] at unchanged
  have none : changes past = [] := (List.append_eq_nil_iff.mp unchanged).1
  rw [run_registry, none]
  rfl

/-- **A rule that is starved is passed by** on every event, at any point of a run that does not
change the rules, also where an answer was kept. -/
theorem starved_passedBy {rules : List Rule} (registers : e.registry.Registers rules)
    (admissible : Registry.Admissible rules) (starves : e.registry.active.Starves c r)
    {settings : Option CacheSettings} (empty : e.cache = settings.map .ofSettings)
    {steps : List Step} (unchanged : changes steps = []) (now : Nat) (event : Event) :
    (e.run steps).PassesBy now event r.name := by
  have names := (registers.invariant admissible).names
  have walk {past later : List Step} (split : past ++ later = steps) (other : Event) :
      ((e.run past).walk other).matchedRule ≠ some r.name ∧
        ∀ t ∈ ((e.run past).walk other).traces, t.ruleName ≠ r.name := by
    rw [Engine.walk, run_registry_unchanged (split ▸ unchanged)]
    exact starves.walk names _
  have answered : ∀ o, ((e.run steps).evaluate now event).1 = .ok o →
      o.matchedRule ≠ some r.name ∧ ∀ t ∈ o.traces, t.ruleName ≠ r.name := by
    intro o answer
    obtain ⟨past, later, other, hit, split, rfl⟩ := run_evaluate_origin empty answer
    exact walk split other
  have whole : steps ++ [] = steps := List.append_nil steps
  have present : (e.run steps).registry.Registers rules := by
    rwa [run_registry_unchanged (whole.symm ▸ unchanged)]
  have concordant := walk_concordant present event
  exact
    { matched := fun o answer => (answered o answer).1
      traced := fun o answer => (answered o answer).2
      all := concordant.matchedRule ▸ (walk whole event).1
      firstMatch := concordant.firstMatch ▸ (walk whole event).1 }

/-- **A book warns of a rule that starves others** where the registered rules are those of the book. -/
theorem starved_warned (accepted : book.validate = .ok ())
    (registers : e.registry.Registers book.rules) (starves : e.registry.active.Starves c r) :
    book.Warns c r := by
  have first := starves.before.mem List.mem_cons_self
  have second := starves.before.mem (List.mem_cons_of_mem _ List.mem_cons_self)
  have named := RuleBook.announced_iff accepted (registers.perm.mem_iff.mp first) starves.enabled
    starves.everyone
  refine ⟨named, fun silent => ?_⟩
  have lowest : ∀ rule ∈ book.rules, c.priority ≤ rule.priority := fun rule mem =>
    Int.not_lt.mp fun below =>
      have ⟨w, warned, same⟩ := named.mpr ⟨rule, mem, below⟩
      silent w warned same
  have descending := (stablySorted_mergeSort book.rules).descending
  rw [← registers.order] at descending
  have order := (List.pairwise_cons.mp (descending.sublist starves.before)).1 r List.mem_cons_self
  exact ⟨Int.le_antisymm order (lowest r (registers.perm.mem_iff.mp second)), lowest⟩

/-- **A rule that is starved is never named, and the book warns of it** but for one case. An accepted
book can be registered. Whatever registers its rules evaluates them in an order, and a rule that
stands behind an enabled catch-all rule there is passed by. The book names the catch-all rule exactly
if a rule of the book has a lower priority; so if it does not, the two share the lowest one. -/
theorem starved_announced (accepted : book.validate = .ok ()) :
    (∃ registry, Registry.ofRules book.rules = .ok registry ∧ registry.Registers book.rules) ∧
      ∀ e : Engine, e.registry.Registers book.rules → ∀ c r, e.registry.active.Starves c r →
        (∀ settings steps, e.cache = Option.map .ofSettings settings → changes steps = [] →
          ∀ now event, (e.run steps).PassesBy now event r.name) ∧
        book.Warns c r := by
  have admissible := RuleBook.admissible accepted
  constructor
  · have admitted : Change.accepted [] (.replaceAll book.rules) = true := by
      simp only [Change.accepted, Bool.and_eq_true, List.all_eq_true, decide_eq_true_eq]
      exact ⟨admissible.valid, admissible.names⟩
    have made := Registry.apply_of_accepted (r := .empty) admitted
    exact ⟨_, made, Registry.registers_ofRules made⟩
  · intro e registers c r starves
    refine ⟨fun settings steps empty unchanged now event => ?_, ?_⟩
    · exact starved_passedBy registers admissible starves empty unchanged now event
    · exact starved_warned accepted registers starves

section Witness

/-- A book with a rule for everyone and a rule on a tier after it. -/
def crowdedBook (priority : Int) : RuleBook where
  rules := [{ name := "all", priority := 10 }, { tierRule with priority }]

/-- A rule that stands below a rule for everyone is passed by, also where an answer is kept, and the
book warns of it. -/
theorem crowdedBook_announced : ∃ registry, Registry.ofRules (crowdedBook 5).rules = .ok registry ∧
    (({ tierEngine with registry } : Engine).run [.evaluate 0 (tierEvent "a" "vip")]).PassesBy 1
      (tierEvent "b" "vip") "vip" ∧
    ∃ w ∈ (crowdedBook 5).warnings, w.name = "all" := by
  have accepted : (crowdedBook 5).validate = .ok () := rfl
  obtain ⟨⟨registry, made, registers⟩, laws⟩ := starved_announced accepted
  have starves : registry.active.Starves { name := "all", priority := 10 }
      { tierRule with priority := 5 } := by
    refine ⟨rfl, rfl, ?_⟩
    cases made
    exact List.Sublist.refl _
  obtain ⟨passes, warns⟩ := laws { tierEngine with registry } registers _ _ starves
  refine ⟨registry, made, passes (some {}) _ rfl rfl 1 _, warns.named.mpr ?_⟩
  exact ⟨{ tierRule with priority := 5 }, List.mem_cons_of_mem _ List.mem_cons_self, by decide⟩

/-- **A rule that shares the lowest priority with a rule for everyone** is starved without a
warning. -/
theorem tied_unannounced : (crowdedBook 10).validate = .ok () ∧
    ∃ registry, Registry.ofRules (crowdedBook 10).rules = .ok registry ∧
      registry.active.rules.map (fun r => (r.name, r.enabled, r.isCatchAll)) =
        [("all", true, true), ("vip", true, false)] ∧
      (crowdedBook 10).warnings = [] :=
  ⟨rfl, _, rfl, rfl, rfl⟩

end Witness

end Engine

end Escalation
