import Escalation.Proofs.Condition.Subject
import Escalation.Proofs.Number.Order
import Escalation.Proofs.Value.Part

/-!
# A value and itself

`EQUALS` is asked with the very value that the field has. A number equals itself unless it is not a
number (`Number.beq_self_eq`), so one might think that the answer is yes. It is, but for objects:
nothing equals an object, and validation refuses one as an operand. It looks no deeper than the
operand itself, though, and an object within a list is accepted.

The law says what comes of it (`equals_identical`): the answer is yes exactly if no object is in the
operand, at any depth (`Value.Has`). With an object in it no value equals the operand
(`Value.flat_of_equals`), though the condition is valid.
-/

namespace Escalation

namespace Value

variable {v w part : Value} {items others : List Value} {caseSensitive : Bool}

/-- No part of the value is an object. -/
def Flat (v : Value) : Prop :=
  ∀ part, v.Has part → part.kind ≠ .object

theorem flat_of_kind (notList : v.kind ≠ .list) (notObject : v.kind ≠ .object) : v.Flat := by
  intro part has
  rw [(has_single notList notObject).mp has]
  exact notObject

theorem not_flat_object (members : List (String × Value)) : ¬ (Value.object members).Flat :=
  fun flat => flat _ (.self _) rfl

theorem flat_list : (Value.list items).Flat ↔ ∀ item ∈ items, item.Flat := by
  constructor
  · intro flat item mem part has
    exact flat part (.item mem has)
  · intro flat part has
    rcases has_list.mp has with rfl | ⟨item, mem, has⟩
    · exact nofun
    · exact flat item mem part has

theorem equalItems_iff : equalItems caseSensitive items others = true ↔
    items.length = others.length ∧ ∀ (i : Nat) (h : i < items.length) (h' : i < others.length),
      items[i].equals caseSensitive others[i] = true := by
  induction items generalizing others with
  | nil => cases others <;> simp [equalItems]
  | cons a items ih =>
    cases others with
    | nil => simp [equalItems]
    | cons b others =>
      rw [equalItems, Bool.and_eq_true, ih]
      constructor
      · rintro ⟨first, length, rest⟩
        refine ⟨congrArg (· + 1) length, fun i h h' => ?_⟩
        cases i with
        | zero => exact first
        | succ i => exact rest i (Nat.lt_of_succ_lt_succ h) (Nat.lt_of_succ_lt_succ h')
      · rintro ⟨length, each⟩
        exact ⟨each 0 (Nat.succ_pos _) (Nat.succ_pos _), Nat.succ.inj length,
          fun i h h' => each (i + 1) (Nat.succ_lt_succ h) (Nat.succ_lt_succ h')⟩

mutual
/-- What a value equals has no object in it. -/
theorem flat_of_equals : (v w : Value) → v.equals caseSensitive w = true → w.Flat
  | v, .object members, equal => by cases v <;> cases equal
  | .list items, .list others, equal => flat_list.mpr (flat_of_equalItems items others equal)
  | .null, .list _, equal | .bool _, .list _, equal | .number _, .list _, equal
  | .text _, .list _, equal | .object _, .list _, equal => nomatch equal
  | _, .null, _ | _, .bool _, _ | _, .number _, _ | _, .text _, _ => flat_of_kind nofun nofun
termination_by structural v => v
theorem flat_of_equalItems : (items others : List Value) →
    equalItems caseSensitive items others = true → ∀ w ∈ others, w.Flat
  | [], [], _ => fun _ mem => nomatch mem
  | item :: items, other :: others, equal => by
    rw [equalItems, Bool.and_eq_true] at equal
    intro w mem
    rcases List.mem_cons.mp mem with rfl | mem
    · exact flat_of_equals item w equal.1
    · exact flat_of_equalItems items others equal.2 w mem
  | [], _ :: _, equal | _ :: _, [], equal => nomatch equal
termination_by structural items => items
end

/-- **A value equals what is alike to it**, if no object and nothing that is not a number is in it. -/
theorem Alike.equals (identical : v.Alike w) (caseSensitive : Bool) :
    (∀ x, w.Has (.number x) → x.isNaN = false) → w.Flat → v.equals caseSensitive w = true := by
  induction identical with
  | null => exact fun _ _ => rfl
  | bool b => exact fun _ _ => beq_self_eq_true b
  | text s => exact fun _ _ => beq_self_eq_true (foldText caseSensitive s)
  | @number x y bits =>
    intro numbers _
    rw [eq_of_toBits bits, Value.equals, Number.beq_self_eq, numbers y (.self _)]
    rfl
  | @list items others length each ih =>
    intro numbers flat
    refine equalItems_iff.mpr ⟨length, fun i h h' => ?_⟩
    have mem := List.getElem_mem h'
    exact ih i h h' (fun x has => numbers x (.item mem has)) (flat_list.mp flat _ mem)
  | object => exact fun _ flat => absurd flat (not_flat_object _)

end Value

namespace Condition

variable {c : Condition} {field : Field} {scope : Scope} {value : Value}

/-- **A condition is asked with the value that its field has.** It holds exactly if no part of the
value is an object, and the condition with the opposite operator says the opposite. -/
theorem equals_identical (valid : c.validate = .ok ()) (operator : c.operator = .equals)
    (plain : c.negate = false) (numbers : ∀ x, c.operand.Has (.number x) → x.isNaN = false)
    (resolved : c.resolve = .ok field) (found : field.lookup scope = some value)
    (identical : value.Alike c.operand) :
    ∃ equal, (c.evaluate scope).verdict = .ok equal ∧
      (({ c with operator := .notEquals } : Condition).evaluate scope).verdict = .ok (!equal) ∧
      (equal = true ↔ c.operand.Flat) := by
  obtain ⟨-, pairing, shape, -⟩ := validateWith_eq_ok.mp valid
  obtain ⟨kind, name, _, operand, _, caseSensitive⟩ := c
  subst operator plain
  let s : Subject := ⟨kind, name, caseSensitive⟩
  have offClock : s.kind ≠ .timeBased := by
    rintro ⟨⟩
    cases pairing
  have comparable : operand.kind ≠ .object := by
    intro kind
    cases operand <;> cases kind
    cases shape
  have asked : ∀ operator ∈ [Operator.equals, .notEquals], operator.isExistence = false →
      operator.isTime = false → s.verdict scope operator operand =
        (s.compare operator operand).testValue PatternKey.compile? value :=
    fun operator compares => Subject.verdict_found resolved found offClock
      (Subject.checkShape_of_comparable compares comparable)
  exact ⟨value.equals caseSensitive operand, asked .equals (by decide) rfl rfl,
    asked .notEquals (by decide) rfl rfl, Value.flat_of_equals _ _,
    identical.equals caseSensitive numbers⟩

section Witness

def tierEquals (operand : Value) : Condition :=
  on .userAttribute "tier" .equals operand

def listedTiers : Value :=
  .list [.number 1]

theorem listedTiers_equals :
    (tierEquals listedTiers).validate = .ok () ∧
      ((tierEquals listedTiers).evaluate (attributeScope listedTiers)).verdict = .ok true ∧
      (({ tierEquals listedTiers with operator := .notEquals } : Condition).evaluate
        (attributeScope listedTiers)).verdict = .ok false := by
  have valid : (tierEquals listedTiers).validate = .ok () := rfl
  have resolved : (tierEquals listedTiers).resolve = .ok (.user "tier") := rfl
  have found : (Field.user "tier").lookup (attributeScope listedTiers) = some listedTiers := rfl
  have numbers : ∀ x, listedTiers.Has (.number x) → x.isNaN = false := by
    intro x has
    rcases Value.has_list.mp has with eq | ⟨item, mem, has⟩
    · cases eq
    · rw [List.mem_singleton.mp mem] at has
      have same := (Value.has_single (by decide) (by decide)).mp has
      cases same
      rfl
  have flat : listedTiers.Flat := by
    refine Value.flat_list.mpr fun item mem => ?_
    rw [List.mem_singleton.mp mem]
    exact Value.flat_of_kind nofun nofun
  obtain ⟨equal, holds, opposite, iff⟩ := equals_identical valid rfl rfl numbers resolved found
    (.refl _)
  obtain rfl := iff.mpr flat
  exact ⟨valid, holds, opposite⟩

def objectTiers : Value :=
  .list [.object [("a", .number 1)]]

/-- **An object in a list is accepted and equals nothing**, itself included. -/
theorem objectTiers_unequal :
    (tierEquals objectTiers).validate = .ok () ∧
      (Field.user "tier").lookup (attributeScope objectTiers) = some objectTiers ∧
      ((tierEquals objectTiers).evaluate (attributeScope objectTiers)).verdict = .ok false ∧
      (({ tierEquals objectTiers with operator := .notEquals } : Condition).evaluate
        (attributeScope objectTiers)).verdict = .ok true :=
  ⟨rfl, rfl, rfl, rfl⟩

end Witness

end Condition

end Escalation
