import Escalation.Proofs.Condition.Subject
import Escalation.Proofs.Time.Window

/-!
# Operators made of others

An operator that takes a list, a range or a window says no more than simpler operators say together.
`Disjoins` and `Conjoins` say what that means for verdicts: which of them hold, which do not, and that
they fail together, with one fault.

The reason is the same for all of them. Every verdict on a subject comes from one reading of the
value (`verdict_eq`), and only the reading fails: what is then asked of it has an answer for each
text of a list (`verdict_each`). So verdicts that share the reading share the failure, and what is
left is a fact about truth values.

The pairing of kind and operator is where this ends. Lists are for fields and windows for the clock,
and each operator is refused in its own name where it does not belong (`Composes.unlisted`,
`Composes.unwindowed`).
-/

namespace Escalation

/-! ## Verdicts together -/

section Verdicts

variable {ε α : Type} {whole : Except ε Bool} {parts : List (Except ε Bool)}

/-- **A verdict says that one of some verdicts holds**, and fails as they all do. -/
structure Disjoins (whole : Except ε Bool) (parts : List (Except ε Bool)) : Prop where
  holds : whole = .ok true ↔ ∃ part ∈ parts, part = .ok true
  fails : whole = .ok false ↔ ∀ part ∈ parts, part = .ok false
  error : ∀ cause, whole = .error cause ↔ ∀ part ∈ parts, part = .error cause

/-- **A verdict says that all of some verdicts hold**, and fails as they all do. -/
structure Conjoins (whole : Except ε Bool) (parts : List (Except ε Bool)) : Prop where
  holds : whole = .ok true ↔ ∀ part ∈ parts, part = .ok true
  fails : whole = .ok false ↔ ∃ part ∈ parts, part = .ok false
  error : ∀ cause, whole = .error cause ↔ ∀ part ∈ parts, part = .error cause

/-- Questions about one reading are asked together or not at all. -/
theorem disjoins_any (reading : Except ε α) {questions : List (α → Bool)} (some : questions ≠ []) :
    Disjoins (reading.map fun a => questions.any (· a)) (questions.map (reading.map ·)) := by
  obtain ⟨first, mem⟩ := List.exists_mem_of_ne_nil _ some
  cases reading with
  | error cause =>
    refine ⟨?_, ?_, fun fault => ?_⟩ <;> simp only [Except.map, List.mem_map]
    · simp
    · exact iff_of_false nofun fun each => nomatch each _ ⟨first, mem, rfl⟩
    · refine ⟨?_, fun each => each _ ⟨first, mem, rfl⟩⟩
      rintro ⟨⟩ _ ⟨_, -, rfl⟩
      rfl
  | ok a =>
    refine ⟨?_, ?_, fun fault => ?_⟩ <;> simp only [Except.map, List.mem_map]
    · simp
    · simp
    · exact iff_of_false nofun fun each => nomatch each _ ⟨first, mem, rfl⟩

theorem map_not_eq_ok {x : Except ε Bool} {b : Bool} : x.map (!·) = .ok b ↔ x = .ok !b := by
  cases x <;> simp [Except.map, Bool.not_eq_eq_eq_not]

/-- All hold where it is not so that one of them does not. -/
theorem Conjoins.of_not (h : Disjoins (whole.map (!·)) (parts.map (·.map (!·)))) :
    Conjoins whole parts where
  holds := by simpa [map_not_eq_ok] using h.fails
  fails := by simpa [map_not_eq_ok] using h.holds
  error cause := by simpa [map_eq_error] using h.error cause

theorem conjoins_all (reading : Except ε α) {questions : List (α → Bool)} (some : questions ≠ []) :
    Conjoins (reading.map fun a => questions.all (· a)) (questions.map (reading.map ·)) := by
  have someNot : questions.map (fun q a => !q a) ≠ [] := mt List.map_eq_nil_iff.mp some
  have negated := disjoins_any reading someNot
  refine .of_not ?_
  -- All hold where none of the opposites does.
  cases reading <;>
    simpa [Except.map, Function.comp_def, List.any_map, List.not_all_eq_any_not] using negated

end Verdicts

namespace Subject

open Condition

variable {s : Subject} {scope : Scope} {operator : Operator} {operand : Value} {field : Field}

/-! ## Texts -/

theorem texts?_map (texts : List String) : texts? (texts.map .text) = some texts := by
  induction texts with
  | nil => rfl
  | cons t texts ih =>
    rw [texts?] at ih ⊢
    rw [List.map_cons, List.mapM_cons, ih]
    rfl

theorem needles?_list {texts : List String} (any : texts ≠ []) :
    needles? (.list (texts.map .text)) = some texts := by
  cases texts with
  | nil => exact absurd rfl any
  | cons t texts => exact texts?_map (t :: texts)

theorem compareContains_each (caseSensitive : Bool) (value : Value) :
    ∃ found : Except ConditionFault (String → Bool), ∀ texts,
      compareContains caseSensitive value texts = found.map fun holds => texts.any holds := by
  cases value with
  | list items =>
    -- The items are asked first and then the texts, which comes to the same.
    refine ⟨.ok fun t => items.any fun item => item.equals caseSensitive (.text t), fun texts => ?_⟩
    refine congrArg Except.ok (Bool.eq_iff_iff.mpr ?_)
    simp only [List.any_eq_true]
    exact ⟨fun ⟨i, hi, t, ht, h⟩ => ⟨t, ht, i, hi, h⟩, fun ⟨t, ht, i, hi, h⟩ => ⟨i, hi, t, ht, h⟩⟩
  | null | object => exact ⟨.error (.notText .contains _), fun _ => rfl⟩
  | text | number | bool =>
    exact ⟨.ok fun t => Text.occursIn (foldText caseSensitive t) (foldText caseSensitive _),
      fun _ => rfl⟩

theorem search_each {α : Type} (reading : Except ConditionFault α) (holds : α → String → Bool) :
    ∃ found : Except ConditionFault (String → Bool), ∀ texts : List String,
      (do return texts.any (holds (← reading))) = found.map fun holds => texts.any holds := by
  cases reading with
  | error cause => exact ⟨.error cause, fun _ => rfl⟩
  | ok a => exact ⟨.ok (holds a), fun _ => rfl⟩

theorem searchFor_each (searches : operator ∈ [Operator.contains, .startsWith, .endsWith])
    (caseSensitive : Bool) (value : Value) :
    ∃ found : Except ConditionFault (String → Bool), ∀ texts,
      searchFor operator caseSensitive value texts = found.map fun holds => texts.any holds := by
  rcases Operator.mem_searches.mp searches with rfl | rfl | rfl
  · exact compareContains_each caseSensitive value
  · exact search_each (fieldText .startsWith value) _
  · exact search_each (fieldText .endsWith value) _

/-- What is asked of each text, once there is a value to ask it of, is one question. -/
theorem reading_each {α : Type} (reading : Except ConditionFault α) (join : Bool → Bool)
    {ask : α → List String → Except ConditionFault Bool}
    (each : ∀ a, ∃ found : Except ConditionFault (String → Bool), ∀ texts,
      ask a texts = found.map fun holds => join (texts.any holds)) :
    ∃ found : Except ConditionFault (String → Bool), ∀ texts,
      reading.bind (ask · texts) = found.map fun holds => join (texts.any holds) := by
  cases reading with
  | error cause => exact ⟨.error cause, fun _ => rfl⟩
  | ok a => exact each a

/-- **An operator that searches asks one question of each text**, once the value is read. -/
theorem verdict_each (s : Subject) (scope : Scope)
    (searches : operator ∈ [Operator.contains, .startsWith, .endsWith]) :
    ∃ found : Except ConditionFault (String → Bool), ∀ operand texts,
      needles? operand = some texts →
      s.verdict scope operator operand = found.map fun holds => texts.any holds := by
  obtain ⟨found, each⟩ :=
    reading_each (s.reading scope operator) id (searchFor_each searches s.caseSensitive)
  refine ⟨found, fun operand texts needles => ?_⟩
  obtain ⟨existence, time⟩ := reads_of_searches searches
  rw [verdict_eq (checkShape_of_needles (.inl searches) needles) existence time,
    testValue_searchFor searches, needles]
  exact each texts

/-- So does the operator that asks for none of them, and it turns the answer round. -/
theorem verdict_notContains (s : Subject) (scope : Scope) :
    ∃ found : Except ConditionFault (String → Bool), ∀ operand texts,
      needles? operand = some texts →
      s.verdict scope .notContains operand = found.map fun holds => !texts.any holds := by
  have opposite : ∀ value, ∃ found : Except ConditionFault (String → Bool), ∀ texts,
      (compareContains s.caseSensitive value texts).map (!·) =
        found.map fun holds => !texts.any holds := by
    intro value
    obtain ⟨found, each⟩ := compareContains_each s.caseSensitive value
    refine ⟨found, fun texts => ?_⟩
    rw [each]
    cases found <;> rfl
  obtain ⟨found, each⟩ := reading_each (s.reading scope .notContains) (!·) opposite
  refine ⟨found, fun operand texts needles => ?_⟩
  have asked : (s.compare .notContains operand).testValue PatternKey.compile? = fun value =>
      (compareContains s.caseSensitive value ((needles? operand).getD [])).map (!·) := rfl
  rw [verdict_eq (checkShape_of_needles (.inr rfl) needles) rfl rfl, asked, needles]
  exact each texts

/-! ## Numbers, members and times -/

/-- Off the clock the value is read as a number in the same way, whatever is asked of the number. -/
theorem verdict_number {ask : Float → Bool} (offClock : s.kind ≠ .timeBased)
    (shape : (s.compare operator operand).checkShape = .ok ())
    (existence : operator.isExistence = false) (time : operator.isTime = false)
    (asks : ∀ value, (s.compare operator operand).testValue PatternKey.compile? value =
      (fieldNumber value).map ask) :
    s.verdict scope operator operand = ((s.reading scope .inRange).bind fieldNumber).map ask := by
  have read : s.reading scope operator = s.reading scope .inRange := by
    rw [reading_of_field offClock time, reading_of_field offClock rfl]
  rw [verdict_eq shape existence time, read]
  cases s.reading scope .inRange with
  | error cause => rfl
  | ok value => exact asks value

theorem verdict_inRange {low high : Float} (offClock : s.kind ≠ .timeBased) (ordered : low ≤ high) :
    s.verdict scope .inRange (.list [.number low, .number high]) =
      ((s.reading scope .inRange).bind fieldNumber).map fun x =>
        decide (low ≤ x) && decide (x ≤ high) := by
  refine verdict_number offClock (if_pos ordered) rfl rfl fun value => ?_
  simp only [testValue, compare]
  cases fieldNumber value <;> rfl

theorem verdict_greaterEqual {low : Float} (offClock : s.kind ≠ .timeBased) :
    s.verdict scope .greaterEqual (.number low) =
      ((s.reading scope .inRange).bind fieldNumber).map fun x => decide (low ≤ x) := by
  refine verdict_number offClock rfl rfl rfl fun value => ?_
  simp only [testValue, compare, compareNumber]
  cases fieldNumber value <;> rfl

theorem verdict_lessEqual {high : Float} (offClock : s.kind ≠ .timeBased) :
    s.verdict scope .lessEqual (.number high) =
      ((s.reading scope .inRange).bind fieldNumber).map fun x => decide (x ≤ high) := by
  refine verdict_number offClock rfl rfl rfl fun value => ?_
  simp only [testValue, compare, compareNumber]
  cases fieldNumber value <;> rfl

theorem compareMember_of_kind {value : Value} (single : value.kind ≠ .list) (caseSensitive : Bool)
    (items : List Value) :
    compareMember caseSensitive value items = items.any (value.equals caseSensitive) := by
  cases value with
  | list values => exact absurd rfl single
  | _ => rfl

section Clock

variable {time : TimeOfDay}

theorem verdict_after {text : String} (onClock : s.kind = .timeBased)
    (read : TimeOfDay.read text = .ok time) : s.verdict scope .after (.text text) =
      .ok (decide (time.minutes ≤ scope.now.minutes)) := by
  have shape : (s.compare .after (.text text)).checkShape = .ok () := by
    simp only [checkShape, compare, TimeOfDay.ofValue, read]
  rw [verdict_clock onClock rfl shape]
  simp only [testTime, compare, TimeOfDay.ofValue, read, reduceCtorEq, if_false]

theorem verdict_before {text : String} (onClock : s.kind = .timeBased)
    (read : TimeOfDay.read text = .ok time) : s.verdict scope .before (.text text) =
      .ok (decide (scope.now.minutes < time.minutes)) := by
  have shape : (s.compare .before (.text text)).checkShape = .ok () := by
    simp only [checkShape, compare, TimeOfDay.ofValue, read]
  rw [verdict_clock onClock rfl shape]
  simp only [testTime, compare, TimeOfDay.ofValue, read, if_true]

theorem verdict_between {window : TimeWindow} (onClock : s.kind = .timeBased)
    (read : TimeWindow.ofValue operand = .ok window) :
    s.verdict scope .between operand = .ok (window.contains scope.now) := by
  have shape : (s.compare .between operand).checkShape = .ok () := by
    simp only [checkShape, compare, read]
  rw [verdict_clock onClock rfl shape]
  simp only [testTime, compare, read]

end Clock

/-! ## The laws -/

/-- **What is said with a list, a range or a window is said with simple operators.** -/
structure Composes (s : Subject) (scope : Scope) : Prop where
  anyOf : ∀ operator ∈ [Operator.contains, .startsWith, .endsWith], ∀ texts : List String,
    texts ≠ [] → Disjoins (s.verdict scope operator (.list (texts.map .text)))
      (texts.map fun t => s.verdict scope operator (.text t))
  noneOf : ∀ texts : List String, texts ≠ [] →
    Conjoins (s.verdict scope .notContains (.list (texts.map .text)))
      (texts.map fun t => s.verdict scope .notContains (.text t))
  /-- Off the clock, for a value that is no list and items that are no objects. -/
  listed : s.kind ≠ .timeBased → ∀ field value, Field.resolve s.kind s.field = .ok field →
    field.lookup scope = some value → value.kind ≠ .list →
    ∀ items : List Value, (∀ item ∈ items, item.kind ≠ .object) →
      (s.verdict scope .inList (.list items) = .ok true ↔
        ∃ item ∈ items, s.verdict scope .equals item = .ok true) ∧
      (s.verdict scope .inList (.list items) = .ok false ↔
        ¬∃ item ∈ items, s.verdict scope .equals item = .ok true)
  unlisted : s.kind = .timeBased → ∀ operand item,
    s.verdict scope .inList operand = .error (.fieldOperator .inList) ∧
      s.verdict scope .equals item = .error (.fieldOperator .equals)
  range : ∀ low high,
    (s.compare .inRange (.list [.number low, .number high])).validate = .ok () →
    Conjoins (s.verdict scope .inRange (.list [.number low, .number high]))
      [s.verdict scope .greaterEqual (.number low), s.verdict scope .lessEqual (.number high)]
  unmeasured : ∀ low high,
    (s.compare .inRange (.list [.number low, .number high])).validate = .ok () →
    ∀ field, Field.resolve s.kind s.field = .ok field →
    (field.lookup scope).bind Value.number? = none → ∃ fault : ConditionFault,
      s.verdict scope .inRange (.list [.number low, .number high]) = .error fault ∧
      s.verdict scope .greaterEqual (.number low) = .error fault ∧
      s.verdict scope .lessEqual (.number high) = .error fault
  /-- Either way of writing the window. -/
  window : s.kind = .timeBased → ∀ start stop first last operand,
    TimeWindow.Spells start stop operand → TimeOfDay.read start = .ok first →
    TimeOfDay.read stop = .ok last →
      (first.minutes ≤ last.minutes → Conjoins (s.verdict scope .between operand)
        [s.verdict scope .after (.text start), s.verdict scope .before (.text stop)]) ∧
      (last.minutes < first.minutes → Disjoins (s.verdict scope .between operand)
        [s.verdict scope .after (.text start), s.verdict scope .before (.text stop)])
  unwindowed : s.kind ≠ .timeBased → ∀ field, Field.resolve s.kind s.field = .ok field →
    ∀ operator operand, operator.isTime = true →
      s.verdict scope operator operand = .error (.timeOperator operator s.kind)

theorem anyOf_disjoins (s : Subject) (scope : Scope)
    (searches : operator ∈ [Operator.contains, .startsWith, .endsWith]) {texts : List String}
    (any : texts ≠ []) : Disjoins (s.verdict scope operator (.list (texts.map .text)))
      (texts.map fun t => s.verdict scope operator (.text t)) := by
  obtain ⟨found, each⟩ := s.verdict_each scope searches
  have single : ∀ t, s.verdict scope operator (.text t) = found.map (· t) := by
    intro t
    rw [each (.text t) [t] rfl]
    simp only [List.any_cons, List.any_nil, Bool.or_false]
  have questions : (texts.map fun t (holds : String → Bool) => holds t) ≠ [] :=
    mt List.map_eq_nil_iff.mp any
  have law := disjoins_any found questions
  rw [each _ texts (needles?_list any)]
  simpa only [List.any_map, List.map_map, Function.comp_def, single] using law

theorem noneOf_conjoins (s : Subject) (scope : Scope) {texts : List String} (any : texts ≠ []) :
    Conjoins (s.verdict scope .notContains (.list (texts.map .text)))
      (texts.map fun t => s.verdict scope .notContains (.text t)) := by
  obtain ⟨found, each⟩ := s.verdict_notContains scope
  have single : ∀ t, s.verdict scope .notContains (.text t) = found.map (!· t) := by
    intro t
    rw [each (.text t) [t] rfl]
    simp only [List.any_cons, List.any_nil, Bool.or_false]
  have questions : (texts.map fun t (holds : String → Bool) => !holds t) ≠ [] :=
    mt List.map_eq_nil_iff.mp any
  have law := conjoins_all found questions
  rw [each _ texts (needles?_list any)]
  simpa only [List.all_map, List.map_map, Function.comp_def, single, List.not_any_eq_all_not]
    using law

theorem offClock_and_ordered {low high : Float}
    (valid : (s.compare .inRange (.list [.number low, .number high])).validate = .ok ()) :
    s.kind ≠ .timeBased ∧ low ≤ high := by
  obtain ⟨-, pairing, shape, -⟩ := validateWith_eq_ok.mp valid
  constructor
  · intro onClock
    simp [checkPairing, compare, onClock, Operator.isTime, Operator.isExistence] at pairing
  · by_contra empty
    simp [checkShape, compare, empty] at shape

theorem range_conjoins (s : Subject) (scope : Scope) {low high : Float}
    (valid : (s.compare .inRange (.list [.number low, .number high])).validate = .ok ()) :
    Conjoins (s.verdict scope .inRange (.list [.number low, .number high]))
      [s.verdict scope .greaterEqual (.number low), s.verdict scope .lessEqual (.number high)] := by
  obtain ⟨offClock, ordered⟩ := offClock_and_ordered valid
  have law := conjoins_all ((s.reading scope .inRange).bind fieldNumber)
    (List.cons_ne_nil (fun x => decide (low ≤ x)) [fun x => decide (x ≤ high)])
  rw [verdict_inRange offClock ordered, verdict_greaterEqual offClock, verdict_lessEqual offClock]
  simpa only [List.all_cons, List.all_nil, Bool.and_true, List.map_cons, List.map_nil] using law

/-- Without a number there is nothing to ask. -/
theorem reading_unmeasured (offClock : s.kind ≠ .timeBased)
    (resolved : Field.resolve s.kind s.field = .ok field)
    (view : (field.lookup scope).bind Value.number? = none) :
    ∃ fault, (s.reading scope .inRange).bind fieldNumber = .error fault := by
  cases found : field.lookup scope with
  | none =>
    rw [reading_of_field offClock rfl]
    simp only [resolved, found]
    exact ⟨.missing field, rfl⟩
  | some value =>
    rw [found, Option.bind_some] at view
    rw [reading_of_found resolved found offClock rfl]
    exact ⟨_, fieldNumber_eq_error.mpr ⟨view, rfl⟩⟩

theorem listed_iff (s : Subject) {scope : Scope} {value : Value} {items : List Value}
    (offClock : s.kind ≠ .timeBased) (resolved : Field.resolve s.kind s.field = .ok field)
    (found : field.lookup scope = some value) (single : value.kind ≠ .list)
    (comparable : ∀ item ∈ items, item.kind ≠ .object) (holds : Bool) :
    s.verdict scope .inList (.list items) = .ok holds ↔
      (holds = true ↔ ∃ item ∈ items, s.verdict scope .equals item = .ok true) := by
  have member : s.verdict scope .inList (.list items) =
      .ok (items.any (value.equals s.caseSensitive)) := by
    rw [verdict_found resolved found offClock rfl rfl rfl]
    exact congrArg Except.ok (compareMember_of_kind single _ _)
  have equal : (∃ item ∈ items, s.verdict scope .equals item = .ok true) ↔
      items.any (value.equals s.caseSensitive) = true := by
    rw [List.any_eq_true]
    refine exists_congr fun item => and_congr_right fun mem => ?_
    have shape : (s.compare .equals item).checkShape = .ok () :=
      checkShape_of_comparable (by decide) (comparable item mem)
    rw [verdict_found resolved found offClock shape rfl rfl]
    exact iff_of_eq (Except.ok.injEq _ _)
  rw [member, Except.ok.injEq, equal, Bool.eq_iff_iff]
  exact ⟨Iff.symm, Iff.symm⟩

section Window

variable {start stop : String} {first last : TimeOfDay} (onClock : s.kind = .timeBased)
  (spells : TimeWindow.Spells start stop operand) (isStart : TimeOfDay.read start = .ok first)
  (isStop : TimeOfDay.read stop = .ok last)

include onClock spells isStart isStop

theorem between_conjoins (ordered : first.minutes ≤ last.minutes) :
    Conjoins (s.verdict scope .between operand)
      [s.verdict scope .after (.text start), s.verdict scope .before (.text stop)] := by
  rw [verdict_between onClock (spells.ofValue isStart isStop), verdict_after onClock isStart,
    verdict_before onClock isStop, TimeWindow.contains_of_le ordered]
  have law := conjoins_all (.ok scope.now : Except ConditionFault TimeOfDay)
    (List.cons_ne_nil (fun now => decide (first.minutes ≤ now.minutes))
      [fun now => decide (now.minutes < last.minutes)])
  simpa [Except.map] using law

theorem between_disjoins (wrapped : last.minutes < first.minutes) :
    Disjoins (s.verdict scope .between operand)
      [s.verdict scope .after (.text start), s.verdict scope .before (.text stop)] := by
  rw [verdict_between onClock (spells.ofValue isStart isStop), verdict_after onClock isStart,
    verdict_before onClock isStop, TimeWindow.contains_of_lt wrapped]
  have law := disjoins_any (.ok scope.now : Except ConditionFault TimeOfDay)
    (List.cons_ne_nil (fun now => decide (first.minutes ≤ now.minutes))
      [fun now => decide (now.minutes < last.minutes)])
  simpa [Except.map] using law

end Window

/-- **Every subject obeys them, in every scope.** -/
theorem composes (s : Subject) (scope : Scope) : s.Composes scope where
  anyOf operator searches texts any := s.anyOf_disjoins scope searches any
  noneOf texts any := s.noneOf_conjoins scope any
  listed offClock field value resolved found single items comparable := by
    have listed := s.listed_iff offClock resolved found single comparable
    exact ⟨by simpa using listed true, by simpa using listed false⟩
  unlisted onClock operand item := by
    have resolved : Field.resolve s.kind s.field = .ok .clock := by
      simp only [Field.resolve, onClock, if_true]
    have refused : ∀ operator operand, operator.isTime = false → operator.isExistence = false →
        s.verdict scope operator operand = .error (.fieldOperator operator) := by
      intro operator operand time existence
      refine verdict_of_pairing resolved ?_
      simp [checkPairing, compare, onClock, time, existence]
    exact ⟨refused _ _ rfl rfl, refused _ _ rfl rfl⟩
  range low high valid := s.range_conjoins scope valid
  unmeasured low high valid field resolved view := by
    obtain ⟨offClock, ordered⟩ := offClock_and_ordered valid
    obtain ⟨fault, failed⟩ := reading_unmeasured offClock resolved view
    refine ⟨fault, ?_, ?_, ?_⟩
    · rw [verdict_inRange offClock ordered, failed]
      rfl
    · rw [verdict_greaterEqual offClock, failed]
      rfl
    · rw [verdict_lessEqual offClock, failed]
      rfl
  window onClock start stop first last operand spells isStart isStop :=
    ⟨between_conjoins onClock spells isStart isStop, between_disjoins onClock spells isStart isStop⟩
  unwindowed offClock field resolved operator operand time := by
    refine verdict_of_pairing resolved ?_
    simp [checkPairing, compare, offClock, time]

section Witness

def clock : Subject :=
  ⟨.timeBased, "", false⟩

def noon : Scope where
  context := { conversationId := "a" }
  decision := {}
  metadata := .empty
  now := ⟨720, by decide⟩

/-- The clock shows a text, and neither is that text among others nor is it not: lists are not for the
clock. Nor is there a window of another field that the times of the day would cut. -/
theorem clock_unlisted :
    Field.clock.lookup noon = some (.text "12:00") ∧
      clock.verdict noon .inList (.list [.text "12:00"]) = .error (.fieldOperator .inList) ∧
      clock.verdict noon .equals (.text "12:00") = .error (.fieldOperator .equals) ∧
      (Subject.mk .metadata "a" false).verdict noon .between (.text "09:00-17:00") =
        .error (.timeOperator .between .metadata) ∧
      (Subject.mk .metadata "a" false).verdict noon .after (.text "09:00") =
        .error (.timeOperator .after .metadata) := by
  refine ⟨rfl, rfl, rfl, rfl, rfl⟩

end Witness

end Subject

end Escalation
