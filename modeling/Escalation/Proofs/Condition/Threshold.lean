import Escalation.Proofs.Condition.Subject
import Escalation.Proofs.Form.Ordered

/-!
# Thresholds

Four operators compare a number with a threshold. On a number in order exactly one of `GREATER_THAN`
and `LESS_EQUAL` holds, and exactly one of `LESS_THAN` and `GREATER_EQUAL`. A value without a numeric
view makes all four fail.

In an event that is read of a text every number is in order, but a text in it may spell what is not
a number (`Value.spellsNaN`). Such a text has a numeric view, and it is neither above nor below any
threshold: the four operators answer no, and none of them fails (`thresholds_decide`). The time of
day has a colon in it and is never read as a number (`number?_clock`).
-/

namespace Escalation

/-! ## The numeric view -/

theorem number?_clock (now : TimeOfDay) : (Value.text now.display).number? = none := by
  have colon : ':' ∈ Text.trimChars now.display.toList := by
    rw [Text.mem_trimChars rfl, TimeOfDay.display, String.toList_append, String.toList_append]
    exact List.mem_append_left _ (List.mem_append_right _ List.mem_cons_self)
  rw [Value.number?, Option.eq_none_iff_forall_ne_some]
  exact fun x read => Number.colon_not_mem_of_read? read colon

/-- The value is a text that spells what is not a number. -/
def Value.spellsNaN : Value → Bool
  | .text s => Number.spellsNaN (Text.trimChars s.toList)
  | _ => false

/-- The numeric view of an ordered value is a number unless it spells that it is none. -/
theorem Value.isNaN_number? {value : Value} (ordered : value.Ordered) {x : Float}
    (view : value.number? = some x) : x.isNaN = value.spellsNaN := by
  cases value with
  | number y =>
    cases view
    exact ordered_number.mp ordered
  | text s => exact Number.isNaN_read? view
  | null | bool | list | object => cases view

theorem Value.number?_of_spellsNaN {value : Value} (spells : value.spellsNaN = true) :
    ∃ x, value.number? = some x := by
  cases value with
  | text s => exact Number.read?_of_spellsNaN spells
  | null | bool | number | list | object => cases spells

/-! ## The four operators -/

/-- The operators that compare the number of a field with a threshold, and how. -/
def Operator.threshold? : Operator → Option (Float → Float → Bool)
  | .greaterThan => some fun x threshold => threshold < x
  | .lessThan => some fun x threshold => x < threshold
  | .greaterEqual => some fun x threshold => threshold ≤ x
  | .lessEqual => some fun x threshold => x ≤ threshold
  | _ => none

variable {operator : Operator} {compares : Float → Float → Bool} {value : Value}
  {x threshold : Float}

/-- What is not a number meets no threshold. -/
theorem Operator.threshold?_unordered (asks : operator.threshold? = some compares)
    (unordered : x.isNaN = true) : compares x threshold = false := by
  cases operator <;> cases asks
  case greaterThan => exact (Number.unordered (.inr unordered)).1
  case lessThan => exact (Number.unordered (.inl unordered)).1
  case greaterEqual => exact (Number.unordered (.inr unordered)).2
  case lessEqual => exact (Number.unordered (.inl unordered)).2

theorem Condition.compareNumber_of_view (view : value.number? = some x) :
    compareNumber compares value threshold = .ok (compares x threshold) := by
  rw [compareNumber, fieldNumber, view]
  rfl

theorem Condition.compareNumber_of_none (none : value.number? = none) :
    compareNumber compares value threshold = .error (.notNumber value.kind value.display) := by
  rw [compareNumber, fieldNumber, none]
  rfl

/-- Of two conditions exactly one holds, and the other does not. -/
def Opposed (verdict other : Except ConditionFault Bool) : Prop :=
  ∃ holds, verdict = .ok holds ∧ other = .ok (!holds)

namespace Subject

open Condition

variable {s : Subject} {scope : Scope} {field : Field}

theorem verdict_threshold (resolved : Field.resolve s.kind s.field = .ok field)
    (found : field.lookup scope = some value) (offClock : s.kind ≠ .timeBased)
    (asks : operator.threshold? = some compares) :
    s.verdict scope operator (.number threshold) = compareNumber compares value threshold := by
  have shape : (s.compare operator (.number threshold)).checkShape = .ok () := by
    cases operator <;> first | rfl | cases asks
  have reads : operator.isExistence = false ∧ operator.isTime = false := by
    cases operator <;> first | exact ⟨rfl, rfl⟩ | cases asks
  rw [verdict_found resolved found offClock shape reads.1 reads.2]
  cases operator <;> cases asks <;> rfl

/-- The clock has no thresholds. -/
theorem verdict_threshold_clock (onClock : s.kind = .timeBased)
    (asks : operator.threshold? = some compares) :
    s.verdict scope operator (.number threshold) = .error (.fieldOperator operator) := by
  have resolved : Field.resolve s.kind s.field = .ok .clock := by
    simp only [Field.resolve, onClock, if_true]
  have pairing : (s.compare operator (.number threshold)).checkPairing =
      .error (.fieldOperator operator) := by
    rw [checkPairing, compare, if_pos onClock]
    cases operator <;> first | rfl | cases asks
  exact verdict_of_pairing resolved pairing

theorem verdict_threshold_of_none (resolved : Field.resolve s.kind s.field = .ok field)
    (found : field.lookup scope = some value) (none : value.number? = none)
    (asks : operator.threshold? = some compares) :
    ∃ fault, s.verdict scope operator (.number threshold) = .error fault ∧
      fault.kind = .conditionType := by
  by_cases onClock : s.kind = .timeBased
  · exact ⟨_, verdict_threshold_clock onClock asks, rfl⟩
  · rw [verdict_threshold resolved found onClock asks, compareNumber_of_none none]
    exact ⟨_, rfl, rfl⟩

/-- A field with a numeric view is not the clock. -/
theorem verdict_threshold_of_view (resolved : Field.resolve s.kind s.field = .ok field)
    (found : field.lookup scope = some value) (view : value.number? = some x)
    (asks : operator.threshold? = some compares) :
    s.verdict scope operator (.number threshold) = .ok (compares x threshold) := by
  have offClock : s.kind ≠ .timeBased := by
    intro onClock
    simp only [Field.resolve, if_pos onClock] at resolved
    cases resolved
    cases found
    rw [number?_clock] at view
    cases view
  rw [verdict_threshold resolved found offClock asks, compareNumber_of_view view]

end Subject

/-- **A number meets exactly one of two opposite thresholds**, and without a numeric view all four
operators fail. A text that spells what is not a number meets none, and none fails. -/
theorem thresholds_decide {arrival : Time.Timestamp} {text : String} {request : Request}
    (read : (Json.read? text).bind (Request.ofJson? arrival) = some request) (now : TimeOfDay)
    {s : Subject} {field : Field} (number : threshold.isNaN = false)
    (resolved : Field.resolve s.kind s.field = .ok field)
    (found : field.lookup (request.event.scope now) = some value) :
    let verdict operator := s.verdict (request.event.scope now) operator (.number threshold)
    (value.number?.isSome → value.spellsNaN = false →
      Opposed (verdict .greaterThan) (verdict .lessEqual) ∧
        Opposed (verdict .lessThan) (verdict .greaterEqual)) ∧
    (value.number? = none → ∀ operator, operator.threshold?.isSome →
      ∃ fault, verdict operator = .error fault ∧ fault.kind = .conditionType) ∧
    (value.spellsNaN = true → value.number?.isSome ∧
      ∀ operator, operator.threshold?.isSome → verdict operator = .ok false) := by
  intro verdict
  have ordered := Field.ordered_lookup (Request.ordered_read? read) found
  refine ⟨fun isSome spells => ?_, fun none operator isSome => ?_, fun spells => ?_⟩
  · obtain ⟨x, view⟩ := Option.isSome_iff_exists.mp isSome
    have own : x.isNaN = false := (Value.isNaN_number? ordered view).trans spells
    have answers {operator : Operator} {compares : Float → Float → Bool}
        (asks : operator.threshold? = some compares) : verdict operator = .ok (compares x threshold) :=
      Subject.verdict_threshold_of_view resolved found view asks
    have above := Number.lt_eq_not_le own number
    have below := Number.lt_eq_not_le number own
    refine ⟨⟨_, answers rfl, ?_⟩, ⟨_, answers rfl, ?_⟩⟩
    · rw [answers rfl, above, Bool.not_not]
    · rw [answers rfl, below, Bool.not_not]
  · obtain ⟨compares, asks⟩ := Option.isSome_iff_exists.mp isSome
    exact Subject.verdict_threshold_of_none resolved found none asks
  · obtain ⟨x, view⟩ := Value.number?_of_spellsNaN spells
    refine ⟨Option.isSome_iff_exists.mpr ⟨x, view⟩, fun operator isSome => ?_⟩
    obtain ⟨compares, asks⟩ := Option.isSome_iff_exists.mp isSome
    have own : x.isNaN = true := (Value.isNaN_number? ordered view).trans spells
    rw [← Operator.threshold?_unordered asks own]
    exact Subject.verdict_threshold_of_view resolved found view asks

section Witness

/-- A request that tells of a user's score, as a text. -/
def scoreRequest? (score : String) : Option Request :=
  (Json.read?
    ("\x7b\"context\":\x7b\"user_attributes\":\x7b\"score\":\"" ++ score ++ "\"\x7d\x7d\x7d")).bind
    (Request.ofJson? default)

/-- Conditions on the score. -/
def score : Subject := ⟨.userAttribute, "score", false⟩

/-- The score that a condition sees. -/
def seenScore? (request : Request) : Option Value :=
  (Field.user "score").lookup (request.event.scope default)

/-- What comes of comparing the score with five. -/
def scoreVerdict (request : Request) (operator : Operator) : Except ConditionFault Bool :=
  score.verdict (request.event.scope default) operator (.number 5)

theorem eq_ok_of_toOption {ε α : Type} {x : Except ε α} {a : α}
    (h : x.toOption = some a) : x = .ok a := by
  cases x with
  | error fault => cases h
  | ok b => exact congrArg Except.ok (Option.some.inj h)

/-- A request is read, and it tells of that score. -/
theorem scoreRequest?_read (text : String) (told : (scoreRequest? text).bind (fun request =>
    (seenScore? request).bind Value.text?) = some text) :
    ∃ request, scoreRequest? text = some request ∧ seenScore? request = some (.text text) := by
  obtain ⟨request, read, told⟩ := Option.bind_eq_some_iff.mp told
  obtain ⟨value, seen, isText⟩ := Option.bind_eq_some_iff.mp told
  cases value with
  | text t =>
    cases isText
    exact ⟨request, read, seen⟩
  | null | bool | number | list | object => cases isText

/-- A score of ten is above five or at most five, and not both. -/
theorem score_opposed : ∃ request, scoreRequest? "10" = some request ∧
    Opposed (scoreVerdict request .greaterThan) (scoreVerdict request .lessEqual) := by
  obtain ⟨request, read, seen⟩ := scoreRequest?_read "10" (by decide +kernel)
  have five : (5 : Float).isNaN = false := by decide
  have laws := thresholds_decide read default (s := score) five rfl seen
  exact ⟨request, read, (laws.1 (by decide +kernel) (by decide +kernel)).1⟩

/-- **A score that spells what is not a number** has a numeric view, and it is neither above five
nor at most five. -/
theorem score_neither : ∃ request, scoreRequest? "NaN" = some request ∧
    seenScore? request = some (.text "NaN") ∧ (Value.text "NaN").number?.isSome ∧
    scoreVerdict request .greaterThan = .ok false ∧
    scoreVerdict request .lessEqual = .ok false := by
  obtain ⟨request, read, seen⟩ := scoreRequest?_read "NaN" (by decide +kernel)
  have answers (operator : Operator) (asked : (scoreRequest? "NaN").bind (fun request =>
      (scoreVerdict request operator).toOption) = some false) :
      scoreVerdict request operator = .ok false := by
    rw [read] at asked
    exact eq_ok_of_toOption asked
  exact ⟨request, read, seen, by decide +kernel, answers .greaterThan (by decide +kernel),
    answers .lessEqual (by decide +kernel)⟩

end Witness

end Escalation
