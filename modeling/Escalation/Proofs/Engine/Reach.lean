import Escalation.Proofs.Engine.Answers

/-!
# Rules that cannot win

An evaluation ends at the first rule that holds. What stands behind that rule, and what is disabled,
is not looked at, so a change that touches only such rules does not show in the answer but for the
version (`evaluate_inert`).

Two rule sets are compared by the rules that are in play for one decider: those that are enabled and
not behind it (`RegisteredRule.inPlay`). A sorted list begins with them, and they hold the decider,
so a walk over the enabled rules is a walk over those in play (`walkRules_inPlay`). An inert change
touches none of them (`filter_inPlay`). The change sorts the rules anew; it does not matter how,
since rules that are in order stay so when others are dropped.
-/

namespace Escalation

variable {scope : Scope} {winner : Option RegisteredRule} {o : Outcome}

/-! ## Rules in play -/

/-- What comes behind a rule that holds is not looked at. -/
theorem RuleSet.walkRules_append {version : UInt64} {before : List Rule}
    (holds : ∃ rule ∈ before, rule.holds scope = true) (behind : List Rule) :
    walkRules .fast scope version (before ++ behind) = walkRules .fast scope version before := by
  induction before with
  | nil =>
    obtain ⟨rule, mem, -⟩ := holds
    cases mem
  | cons first before ih =>
    rw [List.cons_append]
    unfold walkRules
    by_cases held : first.holds scope = true
    · simp only [(first.run_matched .fast).trans held, Bool.true_and, decide_true, if_true]
    · have rest : ∃ rule ∈ before, rule.holds scope = true := by
        obtain ⟨rule, mem, holds⟩ := holds
        rcases List.mem_cons.mp mem with rfl | mem
        · exact absurd holds held
        · exact ⟨rule, mem, holds⟩
      rw [ih rest]

/-- **Whether a rule is in play** for a decider: it is enabled and does not stand behind it. -/
def RegisteredRule.inPlay (winner : Option RegisteredRule) (e : RegisteredRule) : Bool :=
  e.rule.enabled && winner.all fun w => !w.precedes e

/-- A decider of rules is one of them, enabled and holding. -/
structure Decides (scope : Scope) (entries : List RegisteredRule) (w : RegisteredRule) : Prop where
  mem : w ∈ entries
  enabled : w.rule.enabled = true
  holds : w.rule.holds scope = true

/-- The decider is in play itself. -/
theorem Decides.inPlay {entries : List RegisteredRule} {w : RegisteredRule}
    (h : Decides scope entries w) : w.inPlay (some w) = true := by
  have irreflexive : w.precedes w = false := by
    rw [← Bool.not_eq_true]
    exact fun self => RegisteredRule.precedes_asymm self self
  simp only [RegisteredRule.inPlay, h.enabled, Option.all_some, irreflexive, Bool.not_false,
    Bool.and_self]

/-- Rules that are in order begin with those that a rule does not precede. -/
theorem filter_precedes_append {entries : List RegisteredRule}
    (sorted : entries.Pairwise (·.precedes ·)) (w : RegisteredRule) :
    entries.filter (!w.precedes ·) ++ entries.filter (w.precedes ·) = entries := by
  induction entries with
  | nil => rfl
  | cons e entries ih =>
    obtain ⟨first, rest⟩ := List.pairwise_cons.mp sorted
    by_cases before : w.precedes e = true
    · have all : ∀ d ∈ entries, w.precedes d = true := fun d mem =>
        RegisteredRule.precedes_trans before (first d mem)
      have none : entries.filter (!w.precedes ·) = [] :=
        List.filter_eq_nil_iff.mpr fun d mem => by simp [all d mem]
      simp only [List.filter_cons, before, Bool.not_true, Bool.false_eq_true, if_false, if_true,
        none, List.filter_eq_self.mpr all, List.nil_append]
    · simp only [List.filter_cons, before, Bool.not_false, if_true, Bool.false_eq_true, if_false,
        List.cons_append, ih rest]

/-- **A walk over the enabled rules is a walk over those in play.** -/
theorem RuleSet.walkRules_inPlay {version : UInt64} {entries : List RegisteredRule}
    (sorted : entries.Pairwise (·.precedes ·)) (decides : ∀ w ∈ winner, Decides scope entries w) :
    walkRules .fast scope version ((entries.map (·.rule)).filter (·.enabled)) =
      walkRules .fast scope version ((entries.filter (·.inPlay winner)).map (·.rule)) := by
  rw [List.filter_map]
  cases winner with
  | none =>
    congr 2
    exact List.filter_congr fun e _ => (Bool.and_true _).symm
  | some w =>
    have own := decides w rfl
    have split := filter_precedes_append (sorted.filter (·.rule.enabled)) w
    rw [List.filter_filter] at split
    have front : entries.filter (fun e => !w.precedes e && e.rule.enabled) =
        entries.filter (·.inPlay (some w)) :=
      List.filter_congr fun e _ => Bool.and_comm _ _
    rw [front] at split
    change walkRules _ _ _ ((entries.filter (·.rule.enabled)).map (·.rule)) = _
    rw [← split, List.map_append]
    refine walkRules_append ⟨w.rule, List.mem_map_of_mem ?_, own.holds⟩ _
    exact List.mem_filter.mpr ⟨own.mem, own.inPlay⟩

/-! ## Inert changes -/

/-- **A rule is out of reach** of an outcome: it is disabled, or it stands behind the rule that the
outcome names. -/
def RuleSet.OutOfReach (set : RuleSet) (o : Outcome) (name : String) : Prop :=
  (∀ rule ∈ set.rules, rule.name = name → rule.enabled = false) ∨
    ∃ first ∈ o.matchedRule, [first, name].Sublist (set.rules.map (·.name))

namespace Registry

/-- **A change that cannot win**: what it adds is disabled or has no higher priority than the rule
that matched, and what it removes, replaces or puts in another's place is out of reach. -/
def Change.Inert (r next : Registry) (o : Outcome) : Change → Prop
  | .add rule => rule.enabled = false ∨ ∃ priority ∈ o.matchedPriority, rule.priority ≤ priority
  | .update name rule => r.active.OutOfReach o name ∧ next.active.OutOfReach o rule.name
  | .remove name => r.active.OutOfReach o name
  | .replaceAll _ => False

variable {r next : Registry} {c : Change} {e : RegisteredRule}

theorem Invariant.sorted (h : r.Invariant) : r.active.entries.Pairwise (·.precedes ·) :=
  h.ordered.imp RegisteredRule.precedes_iff.mpr

/-- A name belongs to one registered rule. -/
theorem Invariant.eq_of_name (h : r.Invariant) {a b : RegisteredRule} (ha : a ∈ r.active.entries)
    (hb : b ∈ r.active.entries) (same : a.rule.name = b.rule.name) : a = b := by
  have names := h.names
  rw [RuleSet.rules, List.map_map] at names
  exact List.inj_on_of_nodup_map names ha hb same

/-- **What is out of reach is not in play.** -/
theorem Invariant.not_inPlay (h : r.Invariant) (out : r.active.OutOfReach o e.rule.name)
    (mem : e ∈ r.active.entries) (named : o.matchedRule = winner.map (·.rule.name))
    (decides : ∀ w ∈ winner, w ∈ r.active.entries) : e.inPlay winner = false := by
  rcases out with disabled | ⟨first, matched, behind⟩
  · rw [RegisteredRule.inPlay, disabled e.rule (List.mem_map_of_mem mem) rfl, Bool.false_and]
  · rw [named] at matched
    obtain ⟨w, rfl, rfl⟩ := Option.map_eq_some_iff.mp matched
    rw [RuleSet.rules, List.map_map, List.sublist_map_iff] at behind
    obtain ⟨pair, part, names⟩ := behind
    obtain ⟨a, rest, rfl, same, names⟩ := List.map_eq_cons_iff.mp names.symm
    obtain ⟨b, rest, rfl, same', names⟩ := List.map_eq_cons_iff.mp names
    cases List.map_eq_nil_iff.mp names
    have ha := h.eq_of_name (part.mem List.mem_cons_self) (decides w rfl) same
    have hb := h.eq_of_name (part.mem (List.mem_cons_of_mem _ List.mem_cons_self)) mem same'
    subst ha hb
    have precedes := (List.pairwise_cons.mp (h.sorted.sublist part)).1 _ List.mem_cons_self
    simp only [RegisteredRule.inPlay, Option.all_some, precedes, Bool.not_true, Bool.and_false]

/-- Rules that are arranged anew are those that they were, as far as none is touched. -/
theorem Invariant.filter_arrange (h : r.Invariant) {entries : List RegisteredRule}
    (distinct : DistinctNumbers entries) {keep : RegisteredRule → Bool}
    (same : entries.filter keep = r.active.entries.filter keep) :
    (arrange entries).filter keep = r.active.entries.filter keep := by
  refine eq_of_precedes_perm ((arrange_pairwise distinct).filter keep) (h.sorted.filter keep) ?_
  rw [← same]
  exact (arrange_perm entries).filter keep

/-- A substitution does not show where neither the old rule nor the new one does. -/
theorem filter_substitute {name : String} {rule : Rule} {keep : RegisteredRule → Bool}
    {entries : List RegisteredRule}
    (old : ∀ e ∈ entries, e.rule.name = name → keep e = false)
    (new : ∀ e ∈ entries, e.rule.name = name → keep { e with rule } = false) :
    (substitute name rule entries).filter keep = entries.filter keep := by
  induction entries with
  | nil => rfl
  | cons e entries ih =>
    have rest := ih (fun d mem => old d (List.mem_cons_of_mem _ mem))
      fun d mem => new d (List.mem_cons_of_mem _ mem)
    change ((if e.rule.name == name then { e with rule } else e) ::
      substitute name rule entries).filter keep = _
    by_cases same : e.rule.name = name
    · simp only [if_pos (beq_iff_eq.mpr same), List.filter_cons, old e List.mem_cons_self same,
        new e List.mem_cons_self same, Bool.false_eq_true, if_false, rest]
    · rw [if_neg (mt beq_iff_eq.mp same), List.filter_cons, List.filter_cons, rest]

/-! ### What changes leave as it is -/

section Keeps

variable {keep : RegisteredRule → Bool} {name : String} {rule : Rule}

/-- Adding a rule does not show where it does not. -/
theorem Invariant.filter_add (h : r.Invariant) (new : keep ⟨rule, r.nextSequence⟩ = false) :
    (Change.perform r (.add rule)).active.entries.filter keep = r.active.entries.filter keep := by
  refine h.filter_arrange ?_ ?_
  · rw [DistinctNumbers, List.map_append]
    refine List.Nodup.append h.numbers (List.nodup_singleton _) ?_
    rw [List.map_singleton, List.disjoint_singleton]
    intro taken
    obtain ⟨e, mem, same⟩ := List.mem_map.mp taken
    exact absurd same (Nat.ne_of_lt (h.below e mem))
  · rw [List.filter_append, List.filter_cons_of_neg (by simp [new]), List.filter_nil,
      List.append_nil]

/-- Putting a rule in the place of another does not show where neither does. -/
theorem Invariant.filter_update (h : r.Invariant)
    (old : ∀ e ∈ r.active.entries, e.rule.name = name → keep e = false)
    (new : ∀ e ∈ r.active.entries, e.rule.name = name → keep { e with rule } = false) :
    (Change.perform r (.update name rule)).active.entries.filter keep =
      r.active.entries.filter keep := by
  refine h.filter_arrange ?_ (filter_substitute old new)
  rw [DistinctNumbers, substitute_sequence]
  exact h.numbers

/-- Removing rules does not show where they do not. -/
theorem Invariant.filter_remove (h : r.Invariant)
    (old : ∀ e ∈ r.active.entries, e.rule.name = name → keep e = false) :
    (Change.perform r (.remove name)).active.entries.filter keep = r.active.entries.filter keep := by
  change (r.remove name).active.entries.filter _ = _
  unfold Registry.remove
  split
  · refine h.filter_arrange (h.numbers.sublist (List.filter_sublist.map _)) ?_
    rw [List.filter_filter]
    refine List.filter_congr fun e mem => ?_
    by_cases same : e.rule.name = name
    · simp only [old e mem same, Bool.false_and]
    · simp only [bne_iff_ne.mpr same, Bool.and_true]
  · rfl

/-- An update puts the new rule in the place of each of the old name. -/
theorem mem_update (name : String) (rule : Rule) (mem : e ∈ r.active.entries) :
    (if e.rule.name == name then { e with rule } else e) ∈
      (Change.perform r (.update name rule)).active.entries :=
  (arrange_perm _).mem_iff.mpr (List.mem_map.mpr ⟨e, mem, rfl⟩)

end Keeps

/-- What an outcome names is a decider of the registered rules, or there is none. -/
structure Named (r : Registry) (scope : Scope) (o : Outcome) (winner : Option RegisteredRule) :
    Prop where
  rule : o.matchedRule = winner.map (·.rule.name)
  priority : o.matchedPriority = winner.map (·.rule.priority)
  decides : ∀ w ∈ winner, Decides scope r.active.entries w

/-- A new rule stands behind those of its priority. -/
theorem Named.not_inPlay_new {rule : Rule} (named : Named r scope o winner)
    (invariant : r.Invariant)
    (inert : rule.enabled = false ∨ ∃ priority ∈ o.matchedPriority, rule.priority ≤ priority) :
    RegisteredRule.inPlay winner ⟨rule, r.nextSequence⟩ = false := by
  rcases inert with disabled | ⟨priority, matched, le⟩
  · rw [RegisteredRule.inPlay, disabled, Bool.false_and]
  · rw [named.priority] at matched
    obtain ⟨w, rfl, rfl⟩ := Option.map_eq_some_iff.mp matched
    have earlier := invariant.below w (named.decides w rfl).mem
    have precedes : w.precedes ⟨rule, r.nextSequence⟩ = true :=
      RegisteredRule.precedes_iff.mpr (by simp only; omega)
    simp only [RegisteredRule.inPlay, Option.all_some, precedes, Bool.not_true, Bool.and_false]

/-- **An inert change touches no rule that is in play.** What it adds, replaces or removes is not in
play before it, and what it puts there is not in play after it. -/
theorem filter_inPlay (invariant : r.Invariant) (kept : next.Invariant)
    (ok : r.apply c = .ok next) (named : Named r scope o winner) (inert : c.Inert r next o) :
    next.active.entries.filter (·.inPlay winner) =
      r.active.entries.filter (·.inPlay winner) := by
  have member : ∀ w ∈ winner, w ∈ r.active.entries := fun w mem => (named.decides w mem).mem
  have out {name : String} (h : r.active.OutOfReach o name) :
      ∀ e ∈ r.active.entries, e.rule.name = name → e.inPlay winner = false := by
    rintro e mem rfl
    exact invariant.not_inPlay h mem named.rule member
  obtain ⟨-, rfl⟩ := accepted_of_apply ok
  cases c with
  | add rule => exact invariant.filter_add (named.not_inPlay_new invariant inert)
  | update name rule =>
    have old := out inert.1
    have still : ∀ w ∈ winner, w ∈ (Change.perform r (.update name rule)).active.entries := by
      intro w mem
      have inPlay : w.inPlay winner = true := by
        cases mem
        exact (named.decides w rfl).inPlay
      have other : w.rule.name ≠ name := fun same =>
        absurd (old w (member w mem) same) (by simp [inPlay])
      have kept := mem_update name rule (member w mem)
      rwa [if_neg (mt beq_iff_eq.mp other)] at kept
    refine invariant.filter_update old fun e mem same => ?_
    have put := mem_update name rule mem
    rw [if_pos (beq_iff_eq.mpr same)] at put
    exact kept.not_inPlay inert.2 put named.rule still
  | remove name => exact invariant.filter_remove (out inert)
  | replaceAll rules => cases inert

/-- **The outcome of a walk names a decider**, or none if no enabled rule holds. -/
theorem named_walk (r : Registry) (scope : Scope) : Named r scope (r.active.walk .fast scope)
    (r.active.entries.find? fun e => e.rule.enabled && e.rule.holds scope) := by
  have first : winner? scope (r.active.rules.filter (·.enabled)) =
      (r.active.entries.find? fun e => e.rule.enabled && e.rule.holds scope).map (·.rule) := by
    simp only [winner?, List.find?_filter, RuleSet.rules, List.find?_map, Function.comp_def,
      Bool.decide_and, Bool.decide_eq_true]
  have told : FirstMatch scope (r.active.rules.filter (·.enabled)) (r.active.walk .fast scope) :=
    walkRules_firstMatch r.active.version _
  refine ⟨?_, ?_, fun w mem => ?_⟩
  · rw [told.matchedRule, first, Option.map_map]
    rfl
  · rw [told.matchedPriority, first, Option.map_map]
    rfl
  · have found := List.find?_some mem
    rw [Bool.and_eq_true] at found
    exact ⟨List.mem_of_find?_eq_some mem, found.1, found.2⟩

/-- **An inert change does not show in a walk** but for the version. -/
theorem walk_inert (invariant : r.Invariant) (kept : next.Invariant) (ok : r.apply c = .ok next)
    (inert : c.Inert r next (r.active.walk .fast scope)) :
    next.active.walk .fast scope = { r.active.walk .fast scope with version := next.version } := by
  have named := named_walk r scope
  have same := filter_inPlay invariant kept ok named inert
  have still : ∀ w ∈ r.active.entries.find? fun e => e.rule.enabled && e.rule.holds scope,
      Decides scope next.active.entries w := by
    intro w mem
    have decides := named.decides w mem
    refine ⟨?_, decides.enabled, decides.holds⟩
    have inPlay : w ∈ r.active.entries.filter (·.inPlay (some w)) :=
      List.mem_filter.mpr ⟨decides.mem, decides.inPlay⟩
    rw [Option.mem_def.mp mem] at same
    rw [← same] at inPlay
    exact (List.mem_filter.mp inPlay).1
  rw [RuleSet.walk, RuleSet.walk, RuleSet.walkRules_withVersion .fast _ r.active.version]
  rw [RuleSet.rules, RuleSet.rules, RuleSet.walkRules_inPlay kept.sorted still, same,
    RuleSet.walkRules_inPlay invariant.sorted named.decides]
  rfl

end Registry

/-! ## Answers -/

namespace Engine

open Registry (Change)

/-- **Rules that cannot win do not matter.** Whatever changes have made the registry, a change that
is inert for what an event is answered leaves the answer as it is, but for the version. -/
theorem evaluate_inert {e : Engine} (changes : List Change)
    (reached : e.registry = Registry.empty.afterAll changes) (uncached : e.cache = none)
    {now later : Nat} {event : Event} (answer : (e.evaluate now event).1 = .ok o) {c : Change}
    {next : Registry} (ok : e.registry.apply c = .ok next) (inert : c.Inert e.registry next o) :
    ((e.change (·.apply c)).2.evaluate later event).1 = .ok { o with version := next.version } := by
  have after : e.registry.after c = next := by rw [Registry.after, ok]
  have run : Registry.empty.afterAll (changes ++ [c]) = next := by
    rw [← after, reached]
    exact List.foldl_append
  rw [evaluate_uncached uncached] at answer
  cases answer
  have changed : ({ e with registry := next } : Engine).cache = none := uncached
  rw [change_eq, after, evaluate_uncached changed]
  exact congrArg Except.ok (Registry.walk_inert (reached ▸ Registry.invariant_afterAll changes)
    (run ▸ Registry.invariant_afterAll _) ok inert)

section Witness

/-- A rule for everyone, which no event of a tier comes to. -/
def restRule : Rule where
  name := "rest"
  priority := 10

/-- An engine with a rule on a tier and the rule for everyone behind it. -/
def restEngine : Engine :=
  { tierEngine with
    registry := Registry.empty.afterAll [.add restRule, .add tierRule]
    cache := none }

/-- The rule for everyone is renamed and comes up to just behind the rule that matched. -/
def risenRule : Rule :=
  { restRule with name := "all", priority := 199 }

theorem restEngine_inert : ∃ o next,
    (restEngine.evaluate 0 (tierEvent "a" "vip")).1 = .ok o ∧ o.matchedRule = some "vip" ∧
      restEngine.registry.apply (.update "rest" risenRule) = .ok next ∧
      ((restEngine.change (·.apply (.update "rest" risenRule))).2.evaluate 1
        (tierEvent "a" "vip")).1 = .ok { o with version := next.version } := by
  have answer : (restEngine.evaluate 0 (tierEvent "a" "vip")).1 =
      .ok (restEngine.walk (tierEvent "a" "vip")) := rfl
  refine ⟨_, _, answer, rfl, rfl, ?_⟩
  refine evaluate_inert [.add restRule, .add tierRule] rfl rfl answer rfl ⟨?_, ?_⟩
  · exact .inr ⟨"vip", rfl, by decide⟩
  · exact .inr ⟨"vip", rfl, by decide⟩

end Witness

end Engine

end Escalation
