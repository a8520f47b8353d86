import Escalation.Proofs.Condition.Subject
import Mathlib.Data.Finset.Card

/-!
# Which patterns are stored

Conditions are evaluated one after the other, in scopes that change, and all of them with the patterns
of one store (`PatternStore.evaluateEach`). Whatever came before, each has the reading that it has with
an empty store, and the store grows by the patterns that were compiled and by nothing else. So it ends
with one pattern for every key that some evaluation needed and that compiles
(`PatternStore.evaluateEach_exact`).

An evaluation needs a pattern if nothing ends it before: the field is known, the condition is not on
the clock, the operand is a text, and there is a value (`Condition.Needs`). That the value may be one
that no pattern matches makes no difference; a text that does not compile is asked for again each time.
The evaluation itself bears the notion out: it depends on how patterns are compiled exactly where one
is needed (`Condition.asks_iff`).
-/

namespace Escalation

namespace Condition

variable {c : Condition} {scope : Scope} {key : PatternKey} {compile : PatternKey → Option Pattern}

/-! ## Where a pattern is needed -/

/-- **The evaluation of a condition comes to the pattern of a key.** -/
structure Needs (scope : Scope) (c : Condition) (key : PatternKey) : Prop where
  operator : c.operator = .regexMatches
  offClock : c.kind ≠ .timeBased
  present : ∃ field value, c.resolve = .ok field ∧ field.lookup scope = some value
  operand : c.operand = .text key.text
  caseSensitive : c.caseSensitive = key.caseSensitive

/-- The reading of a condition depends on how patterns are compiled. -/
def Asks (scope : Scope) (c : Condition) : Prop :=
  ∃ compile other : PatternKey → Option Pattern,
    c.evaluateWith compile scope ≠ c.evaluateWith other scope

theorem patternKey?_eq_some : c.patternKey? = some key ↔
    c.operator = .regexMatches ∧ c.operand = .text key.text ∧ c.caseSensitive = key.caseSensitive := by
  unfold patternKey?
  split
  · next s operator operand =>
    simp only [operator, operand, Option.some.injEq, Value.text.injEq, true_and]
    constructor
    · rintro rfl
      exact ⟨rfl, rfl⟩
    · rintro ⟨rfl, same⟩
      rw [same]
  · next other => exact ⟨nofun, fun ⟨operator, operand, _⟩ => absurd operand (other _ operator)⟩

theorem patternNeeded?_eq_some : c.patternNeeded? scope = some key ↔ c.Needs scope key := by
  constructor
  · intro needed
    obtain ⟨operator, operand, case⟩ := patternKey?_eq_some.mp (patternKey?_of_needed needed)
    unfold patternNeeded? at needed
    split at needed
    · next own paired field _ pairing resolved =>
      split at needed
      · next found =>
        obtain ⟨value, here⟩ := Option.isSome_iff_exists.mp found
        refine ⟨operator, fun onClock => ?_, ⟨field, value, resolved, here⟩, operand, case⟩
        rw [checkPairing, if_pos onClock, operator] at pairing
        cases pairing
      · cases needed
    · cases needed
  · rintro ⟨operator, offClock, ⟨field, value, resolved, found⟩, operand, case⟩
    have own := patternKey?_eq_some.mpr ⟨operator, operand, case⟩
    have pairing := checkPairing_of_field offClock (by rw [operator]; rfl)
    simp only [patternNeeded?, own, pairing, resolved, found, Option.isSome_some, if_true]

/-- Where a pattern is needed it is compared with the value. -/
theorem Needs.verdict (needs : c.Needs scope key) (compile : PatternKey → Option Pattern) :
    ∃ value, (c.evaluateWith compile scope).verdict =
      ((match compile key with
        | some pattern => comparePattern pattern value
        | none => .error (.pattern key.text)).map (· != c.negate)) := by
  obtain ⟨operator, offClock, ⟨field, value, resolved, found⟩, operand, case⟩ := needs
  refine ⟨value, ?_⟩
  have pairing := checkPairing_of_field offClock (by rw [operator]; rfl)
  have shape : c.checkShape = .ok () := by
    simp only [checkShape, operator, operand]
  unfold evaluateWith
  rw [resolved]
  simp only [found, test_of_valid pairing shape (by rw [operator]; rfl), testValue, operator, operand,
    case]
  rfl

/-- Without a need something ends the evaluation before it comes to the pattern. -/
theorem evaluateWith_of_unneeded (unneeded : c.patternNeeded? scope = none)
    (compile other : PatternKey → Option Pattern) :
    c.evaluateWith compile scope = c.evaluateWith other scope := by
  cases own : c.patternKey? with
  | none => exact evaluateWith_congr (fun key mem => by rw [own] at mem; cases mem) scope
  | some key =>
    unfold evaluateWith
    cases resolved : c.resolve with
    | error cause => rfl
    | ok field =>
      cases pairing : c.checkPairing with
      | error fault => simp only [test_of_pairing _ pairing]
      | ok u =>
        cases found : field.lookup scope with
        | none =>
          simp only [found]
          rfl
        | some value =>
          simp only [patternNeeded?, own, pairing, resolved, found, Option.isSome_some, if_true,
            reduceCtorEq] at unneeded

/-- **A reading depends on how patterns are compiled exactly where one is needed.** -/
theorem asks_iff : c.Asks scope ↔ ∃ key, c.Needs scope key := by
  constructor
  · rintro ⟨compile, other, differ⟩
    cases needed : c.patternNeeded? scope with
    | none => exact absurd (evaluateWith_of_unneeded needed compile other) differ
    | some key => exact ⟨key, patternNeeded?_eq_some.mp needed⟩
  · rintro ⟨key, needs⟩
    -- One that compiles nothing fails for the pattern, and one that compiles everything does not.
    refine ⟨fun _ => none, fun _ => some .empty, fun same => ?_⟩
    obtain ⟨value, without⟩ := needs.verdict fun _ => none
    obtain ⟨value', with'⟩ := needs.verdict fun _ => some .empty
    rw [same, with'] at without
    have failed := comparePattern_eq_error.mp (map_eq_error.mp without)
    cases (fieldText_eq_error.mp failed).2

end Condition

/-! ## What is stored -/

namespace PatternStore

open Condition (PatternKey)

variable {compile : PatternKey → Option Pattern} {store : PatternStore compile}
  {key other : PatternKey} {scope : Scope} {c : Condition} {calls : List (Scope × Condition)}

/-- The keys under which patterns are stored. -/
def keys (store : PatternStore compile) : List PatternKey :=
  store.entries.map (·.1)

theorem length_keys (store : PatternStore compile) : store.keys.length = store.size :=
  List.length_map _

theorem find?_eq_none : store.find? key = none ↔ key ∉ store.keys := by
  simp only [find?, keys, Option.map_eq_none_iff, List.find?_eq_none, beq_iff_eq, List.mem_map,
    not_exists, not_and]

/-- **A key that is fetched is stored, if it compiles**, and nothing else comes in or goes. -/
theorem mem_keys_fetch : other ∈ (store.fetch key).2.keys ↔
    other ∈ store.keys ∨ other = key ∧ (compile key).isSome = true := by
  unfold fetch
  split
  · next pattern found =>
    have stored : key ∈ store.keys := by
      by_contra absent
      rw [find?_eq_none.mpr absent] at found
      cases found
    exact ⟨.inl, fun h => h.elim id fun same => same.1 ▸ stored⟩
  · split
    · next pattern compiled =>
      simp only [keys, List.map_cons, List.mem_cons, compiled, Option.isSome_some, and_true]
      exact or_comm
    · next failed => simp only [failed, Option.isSome_none, Bool.false_eq_true, and_false, or_false]

theorem nodup_keys_fetch (distinct : store.keys.Nodup) : (store.fetch key).2.keys.Nodup := by
  unfold fetch
  split
  · exact distinct
  · next absent =>
    split
    · exact List.nodup_cons.mpr ⟨find?_eq_none.mp absent, distinct⟩
    · exact distinct

/-- **An evaluation stores the pattern that it needs**, if that compiles. -/
theorem mem_keys_evaluate : key ∈ (store.evaluate scope c).2.keys ↔
    key ∈ store.keys ∨ c.Needs scope key ∧ (compile key).isSome = true := by
  unfold evaluate
  simp only [← Condition.patternNeeded?_eq_some]
  split
  · next unneeded => simp only [unneeded, reduceCtorEq, false_and, or_false]
  · next needed own =>
    simp only [own, Option.some.injEq]
    rw [mem_keys_fetch]
    exact or_congr_right ⟨fun ⟨same, compiles⟩ => ⟨same.symm, same ▸ compiles⟩,
      fun ⟨same, compiles⟩ => ⟨same.symm, same ▸ compiles⟩⟩

theorem nodup_keys_evaluate (distinct : store.keys.Nodup) :
    (store.evaluate scope c).2.keys.Nodup := by
  unfold evaluate
  split
  · exact distinct
  · exact nodup_keys_fetch distinct

/-! ## One evaluation after the other -/

/-- The readings of conditions, each in a scope of its own, one after the other, and the store after
them. -/
def evaluateEach (store : PatternStore compile) :
    List (Scope × Condition) → List Condition.Reading × PatternStore compile
  | [] => ([], store)
  | (scope, c) :: calls =>
    let (reading, store) := store.evaluate scope c
    let (readings, store) := store.evaluateEach calls
    (reading :: readings, store)

/-- A list of conditions in one scope is the case in which the scope stays. -/
theorem evaluateAll_eq (scope : Scope) (cs : List Condition) :
    ∀ store : PatternStore compile,
      store.evaluateAll scope cs = store.evaluateEach (cs.map (scope, ·)) := by
  induction cs with
  | nil => exact fun _ => rfl
  | cons c cs ih =>
    intro store
    simp only [evaluateAll, List.map_cons, evaluateEach, ih]

/-- **Nothing that came before shows in a reading.** -/
theorem evaluateEach_readings (calls : List (Scope × Condition)) : ∀ store : PatternStore compile,
    (store.evaluateEach calls).1 = calls.map fun (scope, c) => c.evaluateWith compile scope := by
  induction calls with
  | nil => exact fun _ => rfl
  | cons call calls ih =>
    intro store
    simp only [evaluateEach, List.map_cons, store.evaluate_eq, ih]

/-- **A run of evaluations stores the patterns that they need**, if these compile. -/
theorem mem_keys_evaluateEach : ∀ {store : PatternStore compile},
    key ∈ (store.evaluateEach calls).2.keys ↔ key ∈ store.keys ∨
      (∃ scope c, (scope, c) ∈ calls ∧ c.Needs scope key) ∧ (compile key).isSome = true := by
  induction calls with
  | nil => simp [evaluateEach]
  | cons call calls ih =>
    intro store
    simp only [evaluateEach, ih, mem_keys_evaluate, or_assoc, ← or_and_right]
    refine or_congr_right (and_congr_left fun _ => ?_)
    constructor
    · rintro (needs | ⟨scope, c, mem, needs⟩)
      · exact ⟨_, _, List.mem_cons_self, needs⟩
      · exact ⟨scope, c, List.mem_cons_of_mem _ mem, needs⟩
    · rintro ⟨scope, c, mem, needs⟩
      rcases List.mem_cons.mp mem with rfl | mem
      · exact .inl needs
      · exact .inr ⟨scope, c, mem, needs⟩

theorem nodup_keys_evaluateEach : ∀ {store : PatternStore compile}, store.keys.Nodup →
    (store.evaluateEach calls).2.keys.Nodup := by
  induction calls with
  | nil => exact fun distinct => distinct
  | cons call calls ih => exact fun distinct => ih (nodup_keys_evaluate distinct)

/-- **A store is invisible and exact.** However many conditions are evaluated with it, in whatever
order and scopes, each has the reading that it has without a store, and so with an empty one; and then
as many patterns are stored as there are keys that compile and that one of the evaluations needed.
This is so however patterns are compiled, and an evaluation needs a pattern exactly if its reading
depends on that. -/
theorem evaluateEach_exact (calls : List (Scope × Condition)) :
    (empty.evaluateEach calls).1 = calls.map (fun (scope, c) => c.evaluate scope) ∧
      (∀ compile : PatternKey → Option Pattern,
        ((empty compile).evaluateEach calls).1 =
            calls.map (fun (scope, c) => ((empty compile).evaluate scope c).1) ∧
          (∀ scope (c : Condition),
            ((empty compile).evaluate scope c).1 = c.evaluateWith compile scope) ∧
          ∃ keys : Finset PatternKey,
            (∀ key, key ∈ keys ↔ (∃ scope c, (scope, c) ∈ calls ∧ c.Needs scope key) ∧
              (compile key).isSome = true) ∧
            ((empty compile).evaluateEach calls).2.size = keys.card) ∧
      ∀ scope (c : Condition), (∃ key, c.Needs scope key) ↔ c.Asks scope := by
  refine ⟨evaluateEach_readings calls empty, fun compile => ⟨?_, (empty compile).evaluate_eq, ?_⟩,
    fun scope c => Condition.asks_iff.symm⟩
  · simp only [evaluateEach_readings, evaluate_eq]
  · have distinct : ((empty compile).evaluateEach calls).2.keys.Nodup :=
      nodup_keys_evaluateEach .nil
    refine ⟨((empty compile).evaluateEach calls).2.keys.toFinset, fun key => ?_, ?_⟩
    · have none : key ∉ (empty compile).keys := List.not_mem_nil
      rw [List.mem_toFinset, mem_keys_evaluateEach]
      exact or_iff_right none
    · rw [List.toFinset_card_of_nodup distinct, length_keys]

/-- A pattern counts once for each way of looking at case, and not at all if it is never closed or if
there is no value that it could be compared with. -/
example :
    (empty.evaluateEach
      [(Condition.attributeScope (.text "vip"), Condition.tierPattern),
        (Condition.attributeScope (.list []), Condition.tierPattern),
        (Condition.attributeScope (.text "vip"), Condition.tierPattern.withCase),
        (Condition.attributeScope (.text "vip"), .on .userAttribute "tier" .regexMatches (.text "(")),
        (Condition.attributeScope .null, .on .userAttribute "tier" .regexMatches (.text "v$"))]).2.size =
      2 :=
  rfl

end PatternStore

end Escalation
