import Escalation.Proofs.Engine.Rules
import Escalation.Proofs.Rule.Sameness

/-!
# Answers that are the same as themselves

A check that a kept outcome is the same as the one that was kept looks at all that the two tell but
the times and the mark of being kept. It is an equivalence on the answers of an engine if the numbers
in its rules and events stand in order, and for rules that come from JSON documents they do
(`answers_compare`).

A rule book in YAML may hold what is not a number: as the operand of a comparison, where validation
asks for a number and does not ask which, or in a value that an action stores. The outcomes that tell
of it differ from themselves, and from every copy of them that a cache gives back
(`unordered_answer`).
-/

namespace Escalation

open Registry (Change)

/-- A rule comes from a book that was loaded from a document in that syntax. -/
def Rule.LoadedFrom (d : Dialect) (rule : Rule) : Prop :=
  ∃ source text book, RuleBook.load source d text = .ok book ∧ rule ∈ book.rules

/-- The numbers in rules that come from JSON stand in order. -/
theorem Rule.LoadedFrom.ordered {rule : Rule} (h : rule.LoadedFrom .json) : rule.Ordered := by
  obtain ⟨source, text, book, loaded, own⟩ := h
  exact RuleBook.ordered_load loaded rule own

namespace Engine

variable {e : Engine} {settings : Option CacheSettings} {before : List Change} {steps : List Step}
  {now : Nat} {event : Event} {o : Outcome}

/-- The events that are evaluated in some steps. -/
def events (steps : List Step) : List Event :=
  steps.filterMap fun
    | .evaluate _ event => some event
    | _ => none

section Ordered

variable (registry : e.registry = Registry.empty.afterAll before)
  (rules : ∀ c ∈ before ++ changes steps, ∀ r ∈ c.rules, r.Ordered)

include registry rules

theorem evaluateAll_ordered (ordered : event.Ordered) :
    ((e.run steps).evaluateAll event).Ordered :=
  RuleSet.ordered_walk ordered _ (run_forall_rules registry rules)

/-- **An answer is ordered** if the rules and the events are, also one that was kept. -/
theorem evaluate_ordered (empty : e.cache = settings.map .ofSettings)
    (earlier : ∀ other ∈ events steps, other.Ordered) (ordered : event.Ordered)
    (answer : ((e.run steps).evaluate now event).1 = .ok o) : o.Ordered := by
  by_cases miss : (e.run steps).Misses now event
  · rw [eq_walk_of_miss miss answer]
    exact RuleSet.ordered_walk ordered _ (run_forall_rules registry rules)
  · obtain ⟨entry, kept, -, found⟩ := run_evaluate_hit empty miss
    obtain ⟨past, instant, other, later, rfl, -, outcome⟩ := kept.stored
    cases answer.symm.trans found
    have past_rules := forall_changes_prefix rules
    have own : other ∈ events (past ++ .evaluate instant other :: later) := by
      rw [events, List.filterMap_append]
      exact List.mem_append_right _ List.mem_cons_self
    have walk : ((e.run past).walk other).Ordered :=
      RuleSet.ordered_walk (earlier other own) _ (run_forall_rules registry past_rules)
    rw [← outcome] at walk
    exact { walk with }

end Ordered

/-- **How an answer compares** with other outcomes. -/
structure Compares (e : Engine) (before : List Change) (steps : List Step) (now : Nat)
    (event : Event) (o : Outcome) : Prop where
  symm : ∀ other : Outcome, o.same other = other.same o
  trans : ∀ other third : Outcome, o.same other = true → other.same third = true →
    o.same third = true
  /-- It is the same as its copies, and as itself, exactly if its numbers stand in order. -/
  copies : ∀ copy : Outcome, copy.bare = o.bare → (o.same copy = true ↔ o.Ordered)
  /-- They do if those of the rules and of the events do. -/
  ordered : (∀ c ∈ before ++ changes steps, ∀ r ∈ c.rules, r.Ordered ∨ r.LoadedFrom .json) →
    (∀ other ∈ event :: events steps, other.Ordered) → o.Ordered
  /-- An answer that was kept is a copy of the one that was given when it was not found. -/
  kept : ¬ (e.run steps).Misses now event → ((e.run steps).evaluate now event).1 = .ok o →
    ∃ past instant other later first, steps = past ++ .evaluate instant other :: later ∧
      (e.run past).Misses instant other ∧ ((e.run past).evaluate instant other).1 = .ok first ∧
      o.bare = first.bare ∧ (first.same o = true ↔ first.Ordered)

/-- **Comparing answers is an equivalence where numbers stand in order**, and the answers that do not
tell of ordered numbers are those that differ from themselves. -/
theorem answers_compare (empty : e.cache = settings.map .ofSettings)
    (registry : e.registry = Registry.empty.afterAll before)
    (answer : ((e.run steps).evaluate now event).1 = .ok o ∨ o = (e.run steps).evaluateAll event) :
    e.Compares before steps now event o where
  symm other := by
    rw [Bool.eq_iff_iff]
    exact ⟨Outcome.sameness.symm, Outcome.sameness.symm⟩
  trans _ _ := Outcome.sameness.trans
  copies _ := Outcome.same_copy_iff
  ordered rules ordered := by
    have numbers : ∀ c ∈ before ++ changes steps, ∀ r ∈ c.rules, r.Ordered :=
      fun c mem r own => (rules c mem r own).elim id Rule.LoadedFrom.ordered
    obtain ⟨here, earlier⟩ := List.forall_mem_cons.mp ordered
    rcases answer with answer | rfl
    · exact evaluate_ordered registry numbers empty earlier here answer
    · exact evaluateAll_ordered registry numbers here
  kept hit found := by
    obtain ⟨entry, ⟨past, instant, other, later, split, miss, -, first⟩, -, eq⟩ :=
      run_evaluate_hit empty hit
    cases found.symm.trans eq
    exact ⟨past, instant, other, later, entry.outcome, split, miss, first, rfl,
      Outcome.same_copy_iff rfl⟩

section Witness

theorem tierEvent_ordered (conversationId tier : String) :
    (tierEvent conversationId tier).Ordered where
  context :=
    { userAttributes := Attributes.ordered_ofList <| List.forall_mem_singleton.mpr <|
        Value.ordered_plain nofun nofun nofun
      entities := Attributes.ordered_empty
      metadata := Attributes.ordered_empty }
  decision := Decision.ordered_default
  metadata := Attributes.ordered_empty

theorem tierRule_ordered : tierRule.Ordered where
  operands := List.forall_mem_singleton.mpr (Value.ordered_plain nofun nofun nofun)
  actions := List.forall_mem_singleton.mpr trivial

/-- An answer is the same as its copy that is marked as kept and took longer. -/
theorem tierEngine_compares : ∃ o, (tierEngine.evaluate 0 (tierEvent "a" "vip")).1 = .ok o ∧
    o.same { o with cacheHit := true, micros := 5 } = true := by
  have miss : tierEngine.Misses 0 (tierEvent "a" "vip") := by
    rintro cache ⟨⟩
    rfl
  have empty : tierEngine.cache = (some {}).map .ofSettings := rfl
  have registry : tierEngine.registry = Registry.empty.afterAll [.add tierRule] := rfl
  have answer : ((tierEngine.run []).evaluate 0 (tierEvent "a" "vip")).1 =
      .ok (tierEngine.walk (tierEvent "a" "vip")) := (evaluate_miss miss).1 tierEngine_stores
  have compares := answers_compare empty registry (.inl answer)
  refine ⟨_, answer, (compares.copies _ rfl).mpr (compares.ordered ?_ ?_)⟩
  · refine List.forall_mem_singleton.mpr (List.forall_mem_singleton.mpr ?_)
    exact .inl tierRule_ordered
  · exact List.forall_mem_singleton.mpr (tierEvent_ordered "a" "vip")

/-- A book with a threshold that no number reaches, since it is none. -/
def thresholdBook : String :=
  "rules:\n  - name: high\n    conditions:\n      - type: user_attribute\n        field: score\n" ++
    "        operator: GREATER_THAN\n        value: .nan\n"

/-- An engine over a registry that keeps no outcomes. -/
def plainEngine (registry : Registry) : Engine where
  registry := registry
  cache := none
  metrics := none
  clock := ⟨0, 0⟩
  offset := .universal

/-- The outcome of the rules of a book on an event without attributes. -/
def blankOutcome? (content : String) : Option Outcome :=
  match RuleBook.load "a" .yaml content with
  | .ok book =>
    match Registry.ofRules book.rules with
    | .ok registry => some ((plainEngine registry).walk ⟨{}, {}, .empty⟩)
    | .error _ => none
  | .error _ => none

/-- **A rule book may compare with what is not a number.** It is accepted, and the answer of an
engine with its rules differs from itself. -/
theorem unordered_answer : ∃ book registry o,
    RuleBook.load "a" .yaml thresholdBook = .ok book ∧ Registry.ofRules book.rules = .ok registry ∧
      ((plainEngine registry).evaluate 0 ⟨{}, {}, .empty⟩).1 = .ok o ∧ o.same o = false := by
  have differs : (blankOutcome? thresholdBook).map (fun o => o.same o) = some false := by
    decide +kernel
  obtain ⟨o, found, differs⟩ := Option.map_eq_some_iff.mp differs
  unfold blankOutcome? at found
  split at found
  · next book loaded =>
    split at found
    · next registry made =>
      cases found
      exact ⟨book, registry, _, loaded, made, congrArg Prod.fst (evaluate_uncached rfl), differs⟩
    · cases found
  · cases found

end Witness

end Engine

end Escalation
