import Escalation.Proofs.Condition.Subject
import Escalation.Proofs.Text.Lowercase
import Escalation.Proofs.Text.Search

/-!
# Conditions without regard to case

A condition that ignores case is met at least where the same condition is that minds it: this is
what one expects, and it is the law for equality and for lists (`equals_widens`, `inList_widens`).
There two whole texts are put in lower case, and equal texts stay equal.

An operator that searches puts the text and what it looks for in lower case, each on its own, and
the lower case of a sigma depends on its neighbours. So the law has a condition: the text that is
looked for is steady where the operator looks (`Operator.Steady`). It is exactly this condition that
the law needs (`steady_of_widens`). A text that is not steady stands in some other text, and is not
found there if case is ignored.
-/

namespace Escalation

open Text Condition

variable {operator : Operator} {operand value : Value} {texts : List String}

/-! ## Whole texts -/

theorem foldText_ignoringCase {s t : String} (same : foldText true s = foldText true t) :
    foldText false s = foldText false t := by
  have chars : s.toList = t.toList := same
  simp only [foldText, Bool.false_eq_true, if_false, chars]

mutual
/-- Values that are equal stay equal if case is ignored. -/
theorem Value.equals_ignoringCase :
    (v w : Value) → v.equals true w = true → v.equals false w = true
  | .text s, w, equal => by
    cases w with
    | text t => exact beq_iff_eq.mpr (foldText_ignoringCase (beq_iff_eq.mp equal))
    | _ => exact equal
  | .list items, w, equal => by
    cases w with
    | list others => exact equalItems_ignoringCase items others equal
    | _ => exact equal
  | .null, w, equal | .bool _, w, equal | .number _, w, equal | .object _, w, equal => by
    cases w <;> exact equal
termination_by structural v => v
theorem equalItems_ignoringCase : (items others : List Value) →
    equalItems true items others = true → equalItems false items others = true
  | [], [], _ => rfl
  | [], _ :: _, equal | _ :: _, [], equal => nomatch equal
  | item :: items, other :: others, equal => by
    rw [equalItems, Bool.and_eq_true] at equal ⊢
    exact ⟨item.equals_ignoringCase other equal.1, equalItems_ignoringCase items others equal.2⟩
termination_by structural items => items
end

theorem compareMember_ignoringCase {items : List Value}
    (member : compareMember true value items = true) : compareMember false value items = true := by
  have each : ∀ v : Value, items.any (v.equals true) = true → items.any (v.equals false) = true := by
    intro v found
    obtain ⟨item, mem, equal⟩ := List.any_eq_true.mp found
    exact List.any_eq_true.mpr ⟨item, mem, v.equals_ignoringCase item equal⟩
  cases value with
  | list values =>
    obtain ⟨v, mem, found⟩ := List.any_eq_true.mp member
    exact List.any_eq_true.mpr ⟨v, mem, each v found⟩
  | _ => exact each _ member

/-! ## Parts of texts -/

/-- **The lower case of a text is the same wherever the operator may find the text.** -/
def Operator.Steady (operator : Operator) (text : String) : Prop :=
  match operator with
  | .contains => ¬ Lowercase.Opens text.toList ∧ ¬ Lowercase.Closes text.toList
  | .startsWith => ¬ Lowercase.Closes text.toList
  | .endsWith => ¬ Lowercase.Opens text.toList
  | _ => True

/-- Whether the operator finds one text in another. -/
def Operator.finds (operator : Operator) (needle text : List Char) : Bool :=
  match operator with
  | .contains => Text.occursIn needle text
  | .startsWith => Text.startsWith text needle
  | .endsWith => Text.endsWith text needle
  | _ => false

theorem Operator.finds_ignoringCase {needle text : String} (steady : operator.Steady needle)
    (found : operator.finds (foldText true needle) (foldText true text) = true) :
    operator.finds (foldText false needle) (foldText false text) = true := by
  cases operator with
  | contains =>
    exact occursIn_iff.mpr
      (Lowercase.lowercaseChars_infix (occursIn_iff.mp found) steady.1 steady.2)
  | startsWith =>
    exact startsWith_iff.mpr (Lowercase.lowercaseChars_prefix (startsWith_iff.mp found) steady)
  | endsWith =>
    exact endsWith_iff.mpr (Lowercase.lowercaseChars_suffix (endsWith_iff.mp found) steady)
  | _ => cases found

/-- What an operator finds stands in the text. -/
theorem Operator.infix_of_finds {needle text : List Char}
    (found : operator.finds needle text = true) : needle <:+: text := by
  cases operator with
  | contains => exact occursIn_iff.mp found
  | startsWith => exact (startsWith_iff.mp found).isInfix
  | endsWith => exact (endsWith_iff.mp found).isInfix
  | _ => cases found

/-- A text that is not steady is found in some text, and not if case is ignored: a letter before it or
behind it is enough. -/
theorem Operator.exists_of_not_steady
    (searches : operator ∈ [Operator.contains, .startsWith, .endsWith]) {needle : String}
    (unsteady : ¬ operator.Steady needle) : ∃ text : String,
      operator.finds (foldText true needle) (foldText true text) = true ∧
        operator.finds (foldText false needle) (foldText false text) = false := by
  have ahead : Lowercase.Opens needle.toList →
      operator.finds (foldText false needle) (foldText false ("a" ++ needle)) = false := by
    intro opens
    refine Bool.eq_false_iff.mpr fun found => opens.not_infix ?_
    simpa [foldText] using infix_of_finds found
  have behind : Lowercase.Closes needle.toList →
      operator.finds (foldText false needle) (foldText false (needle ++ "a")) = false := by
    intro closes
    refine Bool.eq_false_iff.mpr fun found => closes.not_infix ?_
    simpa [foldText] using infix_of_finds found
  rcases Operator.mem_searches.mp searches with rfl | rfl | rfl
  · rcases not_and_or.mp unsteady with opens | closes
    · refine ⟨"a" ++ needle, occursIn_iff.mpr ?_, ahead (not_not.mp opens)⟩
      simpa [foldText] using (List.suffix_append ['a'] needle.toList).isInfix
    · refine ⟨needle ++ "a", occursIn_iff.mpr ?_, behind (not_not.mp closes)⟩
      simpa [foldText] using (List.prefix_append needle.toList ['a']).isInfix
  · refine ⟨needle ++ "a", startsWith_iff.mpr ?_, behind (not_not.mp unsteady)⟩
    simp [foldText]
  · refine ⟨"a" ++ needle, endsWith_iff.mpr ?_, ahead (not_not.mp unsteady)⟩
    simp [foldText]

theorem any_finds_ignoringCase (steady : ∀ t ∈ texts, operator.Steady t) {text : String}
    (found : (texts.any fun t => operator.finds (foldText true t) (foldText true text)) = true) :
    (texts.any fun t => operator.finds (foldText false t) (foldText false text)) = true := by
  obtain ⟨t, mem, stands⟩ := List.any_eq_true.mp found
  exact List.any_eq_true.mpr ⟨t, mem, operator.finds_ignoringCase (steady t mem) stands⟩

/-- Of a list whole items are compared, so the texts that are looked for need not be steady. -/
theorem compareContains_ignoringCase
    (steady : value.kind = .list ∨ ∀ t ∈ texts, Operator.contains.Steady t)
    (holds : compareContains true value texts = .ok true) :
    compareContains false value texts = .ok true := by
  cases value with
  | list items =>
    obtain ⟨item, mem, found⟩ := List.any_eq_true.mp (Except.ok.inj holds)
    obtain ⟨t, mem', equal⟩ := List.any_eq_true.mp found
    refine congrArg Except.ok (List.any_eq_true.mpr ⟨item, mem, List.any_eq_true.mpr ⟨t, mem', ?_⟩⟩)
    exact item.equals_ignoringCase _ equal
  | null | object => cases holds
  | text | number | bool =>
    have steady := steady.resolve_left fun isList => by cases isList
    exact congrArg Except.ok (any_finds_ignoringCase steady (Except.ok.inj holds))

/-- An answer that is read off a text stays yes if the question stays one with that answer. -/
theorem answer_of_imp {reading : Except ConditionFault String} {first second : String → Bool}
    (imp : ∀ text, first text = true → second text = true)
    (holds : (do return first (← reading)) = Except.ok true) :
    (do return second (← reading)) = Except.ok true := by
  cases reading with
  | error cause => cases holds
  | ok text => exact congrArg Except.ok (imp text (Except.ok.inj holds))

theorem searchFor_ignoringCase (searches : operator ∈ [Operator.contains, .startsWith, .endsWith])
    (steady : ∀ t ∈ texts, operator.Steady t)
    (holds : Subject.searchFor operator true value texts = .ok true) :
    Subject.searchFor operator false value texts = .ok true := by
  rcases Operator.mem_searches.mp searches with rfl | rfl | rfl
  · exact compareContains_ignoringCase (.inr steady) holds
  · exact answer_of_imp (fun _ => any_finds_ignoringCase steady) holds
  · exact answer_of_imp (fun _ => any_finds_ignoringCase steady) holds

/-! ## Conditions -/

section Widens

variable {kind : ConditionKind} {field : String} {scope : Scope}

/-- In a scope a condition on that field holds without regard to case if it holds with it. -/
def WidensAt (kind : ConditionKind) (field : String) (scope : Scope) (operator : Operator)
    (operand : Value) : Prop :=
  (Subject.mk kind field true).verdict scope operator operand = .ok true →
    (Subject.mk kind field false).verdict scope operator operand = .ok true

/-- **Ignoring case widens conditions** with that operator and operand, on any field in any scope. -/
def Widens (operator : Operator) (operand : Value) : Prop :=
  ∀ kind field scope, WidensAt kind field scope operator operand

/-- It is enough to look at the comparison: what value is compared does not depend on case. -/
theorem WidensAt.of_testValue (existence : operator.isExistence = false)
    (time : operator.isTime = false)
    (each : ∀ value, (Subject.mk kind field true).reading scope operator = .ok value →
      ((Subject.mk kind field true).compare operator operand).testValue PatternKey.compile? value =
          .ok true →
        ((Subject.mk kind field false).compare operator operand).testValue PatternKey.compile? value =
          .ok true) : WidensAt kind field scope operator operand := by
  intro holds
  have valid : ((Subject.mk kind field true).compare operator operand).validate = .ok () := by
    cases checked : ((Subject.mk kind field true).compare operator operand).validate with
    | ok u => rfl
    | error fault =>
      obtain ⟨cause, failed⟩ := evaluateWith_failed checked scope
      cases failed.symm.trans holds
  obtain ⟨-, -, shape, -⟩ := validateWith_eq_ok.mp valid
  have shape' : ((Subject.mk kind field false).compare operator operand).checkShape = .ok () := by
    rw [← shape]
    rfl
  rw [Subject.verdict_eq shape existence time] at holds
  rw [Subject.verdict_eq shape' existence time]
  have read : (Subject.mk kind field false).reading scope operator =
      (Subject.mk kind field true).reading scope operator := rfl
  rw [read]
  cases reading : (Subject.mk kind field true).reading scope operator with
  | error cause =>
    rw [reading] at holds
    cases holds
  | ok value =>
    rw [reading] at holds
    exact each value reading holds

theorem equals_widens (operand : Value) : Widens .equals operand :=
  fun _ _ _ => .of_testValue rfl rfl fun value _ holds =>
    congrArg Except.ok (value.equals_ignoringCase operand (Except.ok.inj holds))

theorem inList_widens (operand : Value) : Widens .inList operand := by
  refine fun _ _ _ => .of_testValue rfl rfl fun value _ holds => ?_
  cases operand with
  | list items => exact congrArg Except.ok (compareMember_ignoringCase (Except.ok.inj holds))
  | _ => cases holds

theorem search_widens (searches : operator ∈ [Operator.contains, .startsWith, .endsWith])
    (steady : ∀ texts, needles? operand = some texts → ∀ t ∈ texts, operator.Steady t) :
    Widens operator operand := by
  have steady : ∀ t ∈ (needles? operand).getD [], operator.Steady t := by
    cases needles : needles? operand with
    | none => exact fun _ mem => nomatch mem
    | some texts => exact steady texts needles
  obtain ⟨existence, time⟩ := Subject.reads_of_searches searches
  refine fun _ _ _ => .of_testValue existence time fun value _ => ?_
  simp only [Subject.testValue_searchFor searches]
  exact searchFor_ignoringCase searches steady

variable (covered : operator ∈ [Operator.equals, .contains, .startsWith, .endsWith, .inList])

include covered

theorem Operator.covered_cases : operator = .equals ∨ operator = .inList ∨
    operator ∈ [Operator.contains, .startsWith, .endsWith] := by
  revert covered
  cases operator <;> decide

theorem widens_of_steady
    (steady : ∀ texts, needles? operand = some texts → ∀ t ∈ texts, operator.Steady t) :
    Widens operator operand := by
  rcases Operator.covered_cases covered with rfl | rfl | searches
  · exact equals_widens operand
  · exact inList_widens operand
  · exact search_widens searches steady

/-- Of a list whole items are compared, and it has no beginning and no end. -/
theorem widensAt_list {resolvedField : Field} {items : List Value}
    (resolved : Field.resolve kind field = .ok resolvedField)
    (found : resolvedField.lookup scope = some (.list items)) :
    WidensAt kind field scope operator operand := by
  rcases Operator.covered_cases covered with rfl | rfl | searches
  · exact equals_widens operand kind field scope
  · exact inList_widens operand kind field scope
  · obtain ⟨existence, time⟩ := Subject.reads_of_searches searches
    refine .of_testValue existence time fun value read => ?_
    obtain ⟨other, resolved', found'⟩ := Subject.of_reading read
    cases resolved.symm.trans resolved'
    cases found.symm.trans found'
    simp only [Subject.testValue_searchFor searches]
    have isList : (Value.list items).kind = .list := rfl
    rcases Operator.mem_searches.mp searches with rfl | rfl | rfl
    · exact compareContains_ignoringCase (.inl isList)
    · intro holds
      cases holds
    · intro holds
      cases holds

end Widens

/-- The attribute of a user, as a subject. -/
def Subject.tier (caseSensitive : Bool) : Subject :=
  ⟨.userAttribute, "tier", caseSensitive⟩

theorem Subject.tier_verdict (searches : operator ∈ [Operator.contains, .startsWith, .endsWith])
    (caseSensitive : Bool) (needle text : String) :
    (Subject.tier caseSensitive).verdict (attributeScope (.text text)) operator (.text needle) =
      .ok (operator.finds (foldText caseSensitive needle) (foldText caseSensitive text)) := by
  have resolved : Field.resolve .userAttribute "tier" = .ok (.user "tier") := rfl
  have found : (Field.user "tier").lookup (attributeScope (.text text)) = some (.text text) := rfl
  have offClock : (Subject.tier caseSensitive).kind ≠ .timeBased := nofun
  obtain ⟨existence, time⟩ := reads_of_searches searches
  rw [verdict_found (s := Subject.tier caseSensitive) resolved found offClock
    (checkShape_of_needles (.inl searches) rfl) existence time, testValue_searchFor searches]
  rcases Operator.mem_searches.mp searches with rfl | rfl | rfl <;>
    exact congrArg Except.ok (Bool.or_false _)

/-- A text that is not steady is lost in some scope. -/
theorem steady_of_widens
    (covered : operator ∈ [Operator.equals, .contains, .startsWith, .endsWith, .inList])
    {needle : String} (widens : Widens operator (.text needle)) : operator.Steady needle := by
  rcases Operator.covered_cases covered with rfl | rfl | searches
  · trivial
  · trivial
  · by_contra unsteady
    -- A user whose attribute is the text in which it is lost.
    obtain ⟨text, found, lost⟩ := Operator.exists_of_not_steady searches unsteady
    have holds := widens .userAttribute "tier" (attributeScope (.text text))
    change (Subject.tier true).verdict _ _ _ = _ → (Subject.tier false).verdict _ _ _ = _ at holds
    rw [Subject.tier_verdict searches, Subject.tier_verdict searches, found, lost] at holds
    cases holds rfl

/-- **Ignoring case widens conditions** that compare with steady texts, and for a single text there is
no other way. What is compared with a list need not be steady. Equality and membership find every text
steady. -/
theorem ignoringCase_widens
    (covered : operator ∈ [Operator.equals, .contains, .startsWith, .endsWith, .inList])
    (operand : Value) :
    ((∀ texts, needles? operand = some texts → ∀ t ∈ texts, operator.Steady t) →
        Widens operator operand) ∧
      (∀ needle, operand = .text needle → Widens operator operand → operator.Steady needle) ∧
      ∀ kind name scope field items, Field.resolve kind name = .ok field →
        field.lookup scope = some (.list items) → WidensAt kind name scope operator operand := by
  refine ⟨widens_of_steady covered, ?_, fun _ _ _ _ _ => widensAt_list covered⟩
  rintro needle rfl widens
  exact steady_of_widens covered widens

section Witness

/-- A text without a sigma is steady. -/
theorem vip_widens :
    Widens .contains (.text "vip") ∧
      (Subject.tier true).verdict (attributeScope (.text "a vip")) .contains (.text "vip") =
        .ok true ∧
      (Subject.tier false).verdict (attributeScope (.text "a vip")) .contains (.text "vip") =
        .ok true := by
  have absent : ∀ front back, "vip".toList ≠ front ++ 'Σ' :: back := by
    intro front back eq
    have mem : 'Σ' ∈ "vip".toList := eq ▸ by simp
    exact absurd mem (by decide)
  have steady : Operator.contains.Steady "vip" :=
    ⟨fun ⟨front, back, eq, _⟩ => absent front back eq,
      fun ⟨front, back, eq, _⟩ => absent front back eq⟩
  have widens : Widens .contains (.text "vip") := by
    refine (ignoringCase_widens (by decide) _).1 fun texts needles t mem => ?_
    cases needles
    rw [List.mem_singleton.mp mem]
    exact steady
  have holds : (Subject.tier true).verdict (attributeScope (.text "a vip")) .contains
      (.text "vip") = .ok true := by
    rw [Subject.tier_verdict (by decide)]
    exact congrArg Except.ok (by decide)
  exact ⟨widens, holds, widens _ _ _ holds⟩

/-- A sigma that ends the word that is looked for does not end the word in which that stands. -/
theorem finalSigma_narrows :
    ((Subject.tier false).compare .contains (.text "ΑΣ")).validate = .ok () ∧
      (Subject.tier true).verdict (attributeScope (.text "ΑΣΑ")) .contains (.text "ΑΣ") =
        .ok true ∧
      (Subject.tier false).verdict (attributeScope (.text "ΑΣΑ")) .contains (.text "ΑΣ") =
        .ok false := by
  refine ⟨rfl, ?_, ?_⟩
  · rw [Subject.tier_verdict (by decide)]
    exact congrArg Except.ok (by decide +kernel)
  · rw [Subject.tier_verdict (by decide)]
    exact congrArg Except.ok (by decide +kernel)

end Witness

end Escalation
