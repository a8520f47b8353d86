import Escalation.Proofs.Condition.Reads
import Escalation.Proofs.Registry.Registration

/-!
# What holds of every registry

Whatever changes were asked of a registry that began empty, and whether they succeeded or not, the
rules in it are valid, no two of them have one name or one number, their numbers have all been given
out, and they stand in the order of evaluation (`Invariant`).

The invariant is not carried through the four operations on the arranged rules. What has to do with
the rules alone is carried through the plain list of registration (`Admissible.register`): there a
change of one rule touches one place. What has to do with their numbers and their order is known of
every registry that registers a plain list. The two meet in `Registers.invariant`.
-/

namespace Escalation

/-! ## What rules read -/

namespace Rule

variable {rule : Rule}

theorem hasTimeConditions_iff :
    rule.hasTimeConditions = true ↔ ∃ c ∈ rule.conditions, c.kind = .timeBased := by
  simp only [hasTimeConditions, List.any_eq_true, beq_iff_eq]

theorem readsTimestamps_iff :
    rule.readsTimestamps = true ↔
      ∃ c ∈ rule.conditions, c.resolve = .ok (.message .timestamp) := by
  constructor
  · intro h
    obtain ⟨c, mem, reads⟩ := List.any_eq_true.mp h
    refine ⟨c, mem, ?_⟩
    split at reads
    · next eq => exact eq
    · cases reads
  · rintro ⟨c, mem, reads⟩
    exact readsTimestamps_of_mem mem reads

theorem isValid_iff : rule.isValid = true ↔ rule.validate = .ok () := by
  unfold isValid
  cases rule.validate with
  | ok u => exact ⟨fun _ => rfl, fun _ => rfl⟩
  | error cause => exact ⟨nofun, nofun⟩

end Rule

namespace Registry

variable {rules : List Rule} {c : Change} {name : String}

theorem named_iff : named name rules = true ↔ name ∈ rules.map (·.name) := by
  simp only [named, List.any_eq_true, beq_iff_eq, List.mem_map]

theorem not_named_iff : (!named name rules) = true ↔ name ∉ rules.map (·.name) := by
  rw [Bool.not_eq_true', ← Bool.not_eq_true, named_iff]

/-! ## Rules that may be registered together -/

/-- Rules that are valid and of which no two have one name. -/
structure Admissible (rules : List Rule) : Prop where
  valid : ∀ rule ∈ rules, rule.isValid = true
  names : (rules.map (·.name)).Nodup

theorem admissible_nil : Admissible [] :=
  ⟨fun _ mem => (nomatch mem), List.Pairwise.nil⟩

theorem Admissible.perm {others : List Rule} (h : Admissible rules) (p : others.Perm rules) :
    Admissible others :=
  ⟨fun rule mem => h.valid rule (p.mem_iff.mp mem), (p.map _).nodup_iff.mpr h.names⟩

/-- In admissible rules a name belongs to one rule. -/
theorem Admissible.eq_of_name {a b : Rule} (h : Admissible rules) (ha : a ∈ rules) (hb : b ∈ rules)
    (same : a.name = b.name) : a = b :=
  List.inj_on_of_nodup_map h.names ha hb same

/-- The names after one rule has been put in the place of another. -/
theorem map_name_replace (rule : Rule) (rules : List Rule) :
    (rules.map fun r => if r.name == name then rule else r).map (·.name) =
      (rules.map (·.name)).map fun n => if n == name then rule.name else n := by
  simp only [List.map_map]
  refine List.map_congr_left fun r _ => ?_
  simp only [Function.comp]
  split <;> rfl

/-- Names stay different when one of them is replaced by itself or by a name that is not there. -/
theorem nodup_replace {names : List String} {new : String} (h : names.Nodup)
    (free : new = name ∨ new ∉ names) :
    (names.map fun n => if n == name then new else n).Nodup := by
  refine List.Nodup.map_on (fun a ha b hb eq => ?_) h
  by_cases replaced : a = name
  · by_cases other : b = name
    · rw [replaced, other]
    · simp only [replaced, BEq.rfl, if_true, beq_iff_eq, other, if_false] at eq
      rcases free with rfl | free
      · rw [replaced, eq]
      · exact absurd (eq ▸ hb) free
  · by_cases other : b = name
    · simp only [other, BEq.rfl, if_true, beq_iff_eq, replaced, if_false] at eq
      rcases free with rfl | free
      · rw [other, eq]
      · exact absurd (eq ▸ ha) free
    · simpa only [beq_iff_eq, replaced, other, if_false] using eq

/-- **An accepted change keeps rules admissible.** -/
theorem Admissible.record (h : Admissible rules) (accepted : c.accepted rules = true) :
    Admissible (c.record rules) := by
  cases c with
  | add rule =>
    simp only [Change.accepted, Bool.and_eq_true, not_named_iff] at accepted
    obtain ⟨valid, free⟩ := accepted
    refine ⟨fun r mem => ?_, ?_⟩
    · rcases List.mem_append.mp mem with mem | mem
      · exact h.valid r mem
      · rw [List.mem_singleton.mp mem]
        exact valid
    · rw [Change.record, List.map_append]
      exact h.names.append (List.nodup_singleton _) (List.disjoint_singleton.mpr free)
  | update name rule =>
    simp only [Change.accepted, Bool.and_eq_true, Bool.or_eq_true, beq_iff_eq, not_named_iff]
      at accepted
    obtain ⟨⟨valid, -⟩, free⟩ := accepted
    refine ⟨fun r mem => ?_, ?_⟩
    · obtain ⟨old, oldMem, rfl⟩ := List.mem_map.mp mem
      split
      · exact valid
      · exact h.valid old oldMem
    · rw [Change.record, map_name_replace]
      exact nodup_replace h.names free
  | remove name =>
    exact ⟨fun r mem => h.valid r (List.mem_of_mem_filter mem),
      h.names.sublist (List.filter_sublist.map _)⟩
  | replaceAll new =>
    simp only [Change.accepted, Bool.and_eq_true, List.all_eq_true, decide_eq_true_eq] at accepted
    exact ⟨accepted.1, accepted.2⟩

/-- A change keeps rules admissible, whether it succeeds or not. -/
theorem Admissible.register (h : Admissible rules) (c : Change) :
    Admissible (register rules c) := by
  unfold Registry.register
  split
  · next accepted => exact h.record accepted
  · exact h

/-- Along every run of changes the rules of the plain list are admissible. -/
theorem admissible_registered (changes : List Change) : Admissible (registered changes) := by
  have run : ∀ (changes : List Change) {rules : List Rule}, Admissible rules →
      Admissible (changes.foldl Registry.register rules) := by
    intro changes
    induction changes with
    | nil => exact fun h => h
    | cons c changes ih => exact fun h => ih (h.register c)
  exact run changes admissible_nil

/-! ## The invariant -/

/-- **What holds of every registry that changes have made.** -/
structure Invariant (r : Registry) : Prop where
  /-- Names are pairwise different. -/
  names : (r.active.rules.map (·.name)).Nodup
  /-- Every rule is valid. -/
  valid : ∀ rule ∈ r.active.rules, rule.validate = .ok ()
  /-- Numbers are pairwise different. -/
  numbers : DistinctNumbers r.active.entries
  /-- Every number is below the one that is given next. -/
  below : ∀ e ∈ r.active.entries, e.sequence < r.nextSequence
  /-- A rule stands before those of lower priority, and before those of its own priority with a
  higher number. -/
  ordered : r.active.entries.Pairwise fun a b =>
    b.rule.priority < a.rule.priority ∨
      a.rule.priority = b.rule.priority ∧ a.sequence < b.sequence
  /-- The rules count as reading the clock exactly if a condition of one of them does. -/
  timed : r.active.hasTimeConditions = true ↔
    ∃ rule ∈ r.active.rules, ∃ c ∈ rule.conditions, c.kind = .timeBased
  /-- They count as reading timestamps exactly if a condition of one of them does. -/
  stamped : r.active.readsTimestamps = true ↔
    ∃ rule ∈ r.active.rules, ∃ c ∈ rule.conditions, c.resolve = .ok (.message .timestamp)

/-- A registry keeps the invariant if it registers rules that may be registered together. -/
theorem Registers.invariant {r : Registry} (h : r.Registers rules) (admissible : Admissible rules) :
    r.Invariant := by
  have active := admissible.perm h.perm
  obtain ⟨entries, numbering, -⟩ := h
  have distinct := distinct_of_ascending numbering.ascending
  refine
    { names := active.names
      valid := fun rule mem => Rule.isValid_iff.mp (active.valid rule mem)
      numbers := distinct.perm numbering.perm
      below := fun e mem => numbering.below e (numbering.perm.mem_iff.mp mem)
      ordered := ?_
      timed := ?_
      stamped := ?_ }
  · rw [numbering.active]
    exact (arrange_pairwise distinct).imp RegisteredRule.precedes_iff.mp
  · simp only [RuleSet.hasTimeConditions, List.any_eq_true, Rule.hasTimeConditions_iff]
  · simp only [RuleSet.readsTimestamps, List.any_eq_true, Rule.readsTimestamps_iff]

/-- The invariant holds after every run of changes. -/
theorem invariant_afterAll (changes : List Change) : (empty.afterAll changes).Invariant :=
  (afterAll_registers changes).invariant (admissible_registered changes)

end Registry

end Escalation
