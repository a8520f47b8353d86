import Escalation.Proofs.Registry.Invariant
import Escalation.Rule.Book
import Mathlib.Data.List.Induction

/-!
# Three ways of accepting rules

A list of rules can be accepted as a book (`RuleBook.validate`), as the rules of a registry
(`Registry.ofRules`), and rule by rule, each added to the registry that those before it have made
(`Registry.addEach`). A book and a registry keep a list of the names that they have seen; an addition
looks for the name among the rules that are registered, which stand in another order.

What the three look for is the first rule that is invalid or has the name of a rule before it
(`Rule.Offends`). Either there is none and the rules may be registered together, or the list splits
there (`Registry.exists_offender`). In the first case all accept the list, and in the second all fail
at that rule, with what is wrong with it (`RuleBook.accepted_alike`). A registry tells of an invalid
rule what the book does, and of a name that is taken in words of its own (`RuleFault.refusal`), so its
check is that of the book with other words (`Registry.checkAll_eq`).

Both registries then hold the same rules under the same numbers. They differ in the version alone:
one has changed once and the other once for every rule.
-/

namespace Escalation

/-! ## The first rule that is refused -/

/-- **What is wrong with a rule that stands behind others**, for a book and for a registry. -/
inductive Rule.Offends (before : List Rule) (rule : Rule) : RuleFault → EngineFault → Prop
  /-- The rule is invalid by itself. -/
  | invalid {cause : RuleFault} (refused : rule.validate = .error cause) :
    Offends before rule cause (.fault (.rule cause))
  /-- A rule before has its name. -/
  | repeated (valid : rule.validate = .ok ()) (taken : rule.name ∈ before.map (·.name)) :
    Offends before rule (.repeatedName rule.name) (.duplicateRule rule.name)

/-- **A way of accepting rules fails at a rule**: it accepts those before, and with the rule it fails,
whatever stands behind. -/
structure FailsAt {ε α : Type} (accept : List Rule → Except ε α) (before : List Rule) (rule : Rule)
    (fault : ε) : Prop where
  accepts : ∃ a, accept before = .ok a
  fails : ∀ behind, accept (before ++ rule :: behind) = .error fault

/-- What a registry says where a book is refused. -/
def RuleFault.refusal : RuleFault → EngineFault
  | .repeatedName name => .duplicateRule name
  | cause => .fault (.rule cause)

namespace Rule

variable {rule : Rule}

theorem firstFault_eq_error {α ε : Type} {check : α → Except ε Unit} {fault : Nat → ε → RuleFault}
    {as : List α} {found : RuleFault} : ∀ {index : Nat},
    firstFault check fault index as = .error found → ∃ place cause, found = fault place cause := by
  induction as with
  | nil => exact fun h => nomatch h
  | cons a as ih =>
    intro index h
    unfold firstFault at h
    split at h
    · exact ih h
    · cases h
      exact ⟨_, _, rfl⟩

/-- Of a single rule no name is repeated. -/
theorem refusal_of_validate {cause : RuleFault} (refused : rule.validate = .error cause) :
    cause.refusal = .fault (.rule cause) := by
  unfold validate validateWith at refused
  split at refused
  · cases refused
    rfl
  · cases conditions : firstFault (Condition.validateWith Condition.PatternKey.compile?)
      (.condition rule.name) 0 rule.conditions with
    | error found =>
      simp only [conditions, bind, Except.bind, Except.error.injEq] at refused
      obtain ⟨_, _, rfl⟩ := firstFault_eq_error conditions
      exact refused ▸ rfl
    | ok u =>
      simp only [conditions, bind, Except.bind] at refused
      obtain ⟨_, _, rfl⟩ := firstFault_eq_error refused
      rfl

end Rule

namespace Registry

variable {r : Registry} {rules before behind : List Rule} {rule : Rule} {cause : RuleFault}
  {fault : EngineFault}

/-- A rule behind admissible rules is one more of them, or something is wrong with it. -/
theorem Admissible.snoc_or_offends (h : Admissible before) (rule : Rule) :
    Admissible (before ++ [rule]) ∨ ∃ cause fault, rule.Offends before cause fault := by
  cases checked : rule.validate with
  | error cause => exact .inr ⟨_, _, .invalid checked⟩
  | ok u =>
    by_cases taken : rule.name ∈ before.map (·.name)
    · exact .inr ⟨_, _, .repeated checked taken⟩
    · refine .inl (h.record (c := .add rule) ?_)
      rw [Change.accepted, Bool.and_eq_true, not_named_iff]
      exact ⟨Rule.isValid_iff.mpr checked, taken⟩

/-- **Rules may be registered together, or one is the first with which something is wrong.** -/
theorem exists_offender (rules : List Rule) : Admissible rules ∨
    ∃ before rule behind cause fault, rules = before ++ rule :: behind ∧ Admissible before ∧
      rule.Offends before cause fault := by
  induction rules using List.reverseRecOn with
  | nil => exact .inl admissible_nil
  | append_singleton rules last ih =>
    rcases ih with admissible | ⟨before, rule, behind, cause, fault, rfl, first, offends⟩
    · rcases admissible.snoc_or_offends last with longer | ⟨cause, fault, offends⟩
      · exact .inl longer
      · exact .inr ⟨rules, last, [], cause, fault, rfl, admissible, offends⟩
    · refine .inr ⟨before, rule, behind ++ [last], cause, fault, ?_, first, offends⟩
      rw [List.append_assoc, List.cons_append]

end Registry

/-! ## The book -/

namespace RuleBook

variable {rules before behind : List Rule} {rule : Rule} {cause : RuleFault} {fault : EngineFault}
  {seen : List String}

/-- What a book accepts it has seen when it goes on. -/
theorem validateRules_append (valid : ∀ r ∈ before, r.isValid = true)
    (names : (before.map (·.name)).Nodup) (free : ∀ r ∈ before, r.name ∉ seen) (rest : List Rule) :
    validateRules seen (before ++ rest) =
      validateRules ((before.map (·.name)).reverse ++ seen) rest := by
  induction before generalizing seen with
  | nil => rfl
  | cons rule before ih =>
    obtain ⟨first, others⟩ := List.forall_mem_cons.mp valid
    obtain ⟨unseen, unseenOthers⟩ := List.forall_mem_cons.mp free
    obtain ⟨fresh, distinct⟩ := List.nodup_cons.mp names
    have freeOthers : ∀ r ∈ before, r.name ∉ rule.name :: seen := by
      intro r mem known
      rcases List.mem_cons.mp known with same | known
      · exact fresh (List.mem_map.mpr ⟨r, mem, same⟩)
      · exact unseenOthers r mem known
    rw [List.cons_append, validateRules, Rule.isValid_iff.mp first]
    simp only [bind, Except.bind, List.contains_iff_mem, unseen, if_false]
    rw [ih others distinct freeOthers, List.map_cons, List.reverse_cons, List.append_assoc]
    rfl

theorem validateRules_of_admissible (h : Registry.Admissible before) (rest : List Rule) :
    validateRules [] (before ++ rest) = validateRules (before.map (·.name)).reverse rest := by
  rw [validateRules_append h.valid h.names fun _ _ => List.not_mem_nil, List.append_nil]

/-- A book accepts rules that may be registered together. -/
theorem validate_of_admissible (h : Registry.Admissible rules) : validateRules [] rules = .ok () := by
  rw [← List.append_nil rules, validateRules_of_admissible h]
  rfl

/-- **A book is refused for the first rule with which something is wrong.** -/
theorem validateRules_of_offends (h : Registry.Admissible before)
    (offends : rule.Offends before cause fault) (behind : List Rule) :
    validateRules [] (before ++ rule :: behind) = .error cause := by
  rw [validateRules_of_admissible h, validateRules]
  cases offends with
  | invalid refused => rw [refused]; rfl
  | repeated valid taken =>
    rw [valid]
    exact if_pos (List.contains_iff_mem.mpr (List.mem_reverse.mpr taken))

/-- **A book may hold exactly the rules that may be registered together.** -/
theorem validateRules_ok_iff : validateRules [] rules = .ok () ↔ Registry.Admissible rules := by
  refine ⟨fun accepted => ?_, validate_of_admissible⟩
  rcases Registry.exists_offender rules with
    admissible | ⟨before, rule, behind, cause, fault, rfl, first, offends⟩
  · exact admissible
  · rw [validateRules_of_offends first offends] at accepted
    cases accepted

end RuleBook

/-! ## The registry of all rules -/

namespace Registry

variable {r : Registry} {rules before behind : List Rule} {rule : Rule} {cause : RuleFault}
  {fault : EngineFault}

/-- **A registry checks rules as a book does**, and tells of what is wrong in its own words. -/
theorem checkAll_eq (rules : List Rule) : ∀ seen,
    checkAll seen rules = (RuleBook.validateRules seen rules).mapError RuleFault.refusal := by
  induction rules with
  | nil => exact fun _ => rfl
  | cons rule rules ih =>
    intro seen
    unfold checkAll RuleBook.validateRules checkRule
    cases checked : rule.validate with
    | error cause => exact congrArg Except.error (Rule.refusal_of_validate checked).symm
    | ok u =>
      simp only [bind, Except.bind]
      split
      · rfl
      · exact ih _

theorem ofRules_eq (rules : List Rule) : ofRules rules =
    ((RuleBook.validateRules [] rules).mapError RuleFault.refusal).map fun _ =>
      Change.perform .empty (.replaceAll rules) := by
  rw [ofRules, replaceAll, checkAll_eq]
  cases RuleBook.validateRules [] rules <;> rfl

/-- A registry says of an offending rule what its refusal is. -/
theorem refusal_of_offends (offends : rule.Offends before cause fault) : cause.refusal = fault := by
  cases offends with
  | invalid refused => exact Rule.refusal_of_validate refused
  | repeated valid taken => rfl

theorem ofRules_of_admissible (h : Admissible rules) :
    ofRules rules = .ok (Change.perform .empty (.replaceAll rules)) := by
  rw [ofRules_eq, RuleBook.validate_of_admissible h]
  rfl

theorem ofRules_of_offends (h : Admissible before) (offends : rule.Offends before cause fault)
    (behind : List Rule) : ofRules (before ++ rule :: behind) = .error fault := by
  rw [ofRules_eq, RuleBook.validateRules_of_offends h offends, ← refusal_of_offends offends]
  rfl

/-! ## Rule by rule -/

/-- The registry after rules have been added one by one, if each addition succeeds. -/
def addEach (r : Registry) (rules : List Rule) : Except EngineFault Registry :=
  rules.foldlM add r

theorem addEach_append (r : Registry) (rules others : List Rule) :
    r.addEach (rules ++ others) = (r.addEach rules).bind (·.addEach others) :=
  List.foldlM_append

theorem addEach_cons (r : Registry) (rule : Rule) (rules : List Rule) :
    r.addEach (rule :: rules) = (r.add rule).bind (·.addEach rules) :=
  List.foldlM_cons

theorem number_snoc (rules : List Rule) (rule : Rule) : ∀ start,
    number start (rules ++ [rule]) = number start rules ++ [⟨rule, start + rules.length⟩] := by
  induction rules with
  | nil => exact fun _ => rfl
  | cons first rules ih =>
    intro start
    rw [List.cons_append, number, ih, number, List.length_cons, Nat.add_right_comm, Nat.add_assoc]
    rfl

/-- **What one-by-one additions to an empty registry have made**: the rules are numbered from zero on,
as they would be all at once. -/
structure AddedEach (r : Registry) (rules : List Rule) : Prop where
  numbering : r.Numbering (number 0 rules)
  nextSequence : r.nextSequence = rules.length
  version : r.version = UInt64.ofNat rules.length

theorem AddedEach.registers (h : r.AddedEach rules) : r.Registers rules :=
  ⟨_, h.numbering, number_rule rules 0⟩

/-- An addition that is accepted adds the rule under the next number. -/
theorem AddedEach.add (h : r.AddedEach rules) (rule : Rule) :
    (Change.perform r (.add rule)).AddedEach (rules ++ [rule]) where
  numbering := by
    have longer := h.numbering.add rule
    rwa [h.nextSequence, ← Nat.zero_add rules.length, ← number_snoc] at longer
  nextSequence := by
    rw [List.length_append]
    exact congrArg (· + 1) h.nextSequence
  version := by
    rw [List.length_append, UInt64.ofNat_add, ← h.version]
    rfl

/-- **Rules that may be registered together can be added one by one.** -/
theorem addEach_of_admissible (h : Admissible rules) :
    ∃ r, addEach .empty rules = .ok r ∧ r.AddedEach rules := by
  induction rules using List.reverseRecOn with
  | nil => exact ⟨.empty, rfl, ⟨rfl, .nil, fun _ mem => nomatch mem⟩, rfl, rfl⟩
  | append_singleton rules rule ih =>
    obtain ⟨initial, last⟩ := List.forall_mem_append.mp h.valid
    obtain ⟨names, -, fresh⟩ := List.nodup_append.mp (List.map_append ▸ h.names)
    obtain ⟨r, made, added⟩ := ih ⟨initial, names⟩
    have accepted : (Change.add rule).accepted r.active.rules = true := by
      rw [accepted_perm added.registers.perm, Change.accepted, Bool.and_eq_true, not_named_iff]
      exact ⟨last rule List.mem_cons_self, fun taken => fresh _ taken _ List.mem_cons_self rfl⟩
    have next : r.add rule = .ok (Change.perform r (.add rule)) := apply_of_accepted accepted
    refine ⟨_, ?_, added.add rule⟩
    simp only [addEach_append, made, Except.bind, addEach_cons, next]
    rfl

/-- **A rule that offends is not added** to a registry of those before, in whatever order they stand
there. -/
theorem add_of_offends (registers : r.Registers before) (offends : rule.Offends before cause fault) :
    r.add rule = .error fault := by
  cases offends with
  | invalid refused =>
    unfold add checkRule
    rw [refused]
    rfl
  | repeated valid taken =>
    have present : r.active.contains rule.name = true := by
      rw [← named_rules, named_perm registers.perm]
      exact named_iff.mpr taken
    unfold add checkRule
    rw [valid]
    exact if_pos present

theorem addEach_of_offends (h : Admissible before) (offends : rule.Offends before cause fault)
    (behind : List Rule) : addEach .empty (before ++ rule :: behind) = .error fault := by
  obtain ⟨r, made, added⟩ := addEach_of_admissible h
  have refused := add_of_offends added.registers offends
  simp only [addEach_append, made, Except.bind, addEach_cons, refused]

/-- **Two registries evaluate the same rules in the same order**, under the same numbers. -/
structure SameRules (r s : Registry) : Prop where
  order : r.active.rules = s.active.rules
  numbers : r.active.entries = s.active.entries
  nextSequence : r.nextSequence = s.nextSequence
  timed : r.active.hasTimeConditions = s.active.hasTimeConditions
  stamped : r.active.readsTimestamps = s.active.readsTimestamps

/-- Rules that were added one by one stand as if they had been registered together. -/
theorem AddedEach.sameRules (h : r.AddedEach rules) :
    SameRules (Change.perform .empty (.replaceAll rules)) r := by
  have together := Numbering.replaceAll .empty rules
  have numbers : (Change.perform .empty (.replaceAll rules)).active.entries = r.active.entries :=
    together.active.trans h.numbering.active.symm
  have order := congrArg (List.map (·.rule)) numbers
  refine ⟨order, numbers, ?_, congrArg (List.any · _) order, congrArg (List.any · _) order⟩
  rw [h.nextSequence]
  exact Nat.zero_add _

end Registry

/-! ## All three -/

namespace RuleBook

open Registry (addEach ofRules)

/-- The book with other rules. -/
def withRules (book : RuleBook) (rules : List Rule) : RuleBook :=
  { book with rules }

/-- **The three ways of accepting the rules of a book agree.** -/
structure AcceptedAlike (book : RuleBook) : Prop where
  /-- The book is accepted exactly if a registry of its rules is. -/
  together : book.validate = .ok () ↔ ∃ r, ofRules book.rules = .ok r
  /-- A registry of its rules is accepted exactly if each of them can be added. -/
  oneByOne : (∃ r, ofRules book.rules = .ok r) ↔ ∃ r, addEach .empty book.rules = .ok r
  /-- Where they fail, they fail at one rule, for what is wrong with it. -/
  refused : book.validate ≠ .ok () →
    ∃ before rule behind cause fault, book.rules = before ++ rule :: behind ∧
      rule.Offends before cause fault ∧
      FailsAt (fun rules => (book.withRules rules).validate) before rule cause ∧
      FailsAt ofRules before rule fault ∧
      FailsAt (addEach .empty) before rule fault
  /-- Where they succeed, the registries hold the same rules. -/
  accepted : ∀ r s, ofRules book.rules = .ok r → addEach .empty book.rules = .ok s →
    r.SameRules s ∧ r.version = 1 ∧ s.version = UInt64.ofNat book.rules.length

/-- **Rules are accepted as a book, as a registry and one by one alike.** -/
theorem accepted_alike (book : RuleBook) : book.AcceptedAlike := by
  rcases Registry.exists_offender book.rules with
    admissible | ⟨before, rule, behind, cause, fault, split, first, offends⟩
  · have valid : book.validate = .ok () := validate_of_admissible admissible
    have whole := Registry.ofRules_of_admissible admissible
    obtain ⟨each, made, added⟩ := Registry.addEach_of_admissible admissible
    refine ⟨iff_of_true valid ⟨_, whole⟩, iff_of_true ⟨_, whole⟩ ⟨_, made⟩,
      fun invalid => absurd valid invalid, fun r s ofAll ofEach => ?_⟩
    cases whole.symm.trans ofAll
    cases made.symm.trans ofEach
    exact ⟨added.sameRules, rfl, added.version⟩
  · have inBook : FailsAt (fun rules => (book.withRules rules).validate) before rule cause :=
      ⟨⟨(), validate_of_admissible first⟩, validateRules_of_offends first offends⟩
    have inRegistry : FailsAt ofRules before rule fault :=
      ⟨⟨_, Registry.ofRules_of_admissible first⟩, Registry.ofRules_of_offends first offends⟩
    have inTurn : FailsAt (addEach .empty) before rule fault := by
      obtain ⟨s, made, -⟩ := Registry.addEach_of_admissible first
      exact ⟨⟨s, made⟩, Registry.addEach_of_offends first offends⟩
    have invalid : book.validate = .error cause := by
      rw [← inBook.fails behind, ← split]
      rfl
    have noRegistry : ¬ ∃ r, ofRules book.rules = .ok r := by
      rw [split, inRegistry.fails]
      nofun
    have noAdditions : ¬ ∃ r, addEach .empty book.rules = .ok r := by
      rw [split, inTurn.fails]
      nofun
    refine ⟨iff_of_false (by rw [invalid]; nofun) noRegistry, iff_of_false noRegistry noAdditions,
      fun _ => ?_, fun r s ofAll _ => absurd ⟨r, ofAll⟩ noRegistry⟩
    exact ⟨before, rule, behind, cause, fault, split, offends, inBook, inRegistry, inTurn⟩

/-- Of two faults the first in the list counts: here the name that is taken, and not the blank one. -/
example : ofRules [{ name := "a" }, { name := "a" }, { name := " " }] =
      .error (.duplicateRule "a") ∧
    addEach .empty [{ name := "a" }, { name := "a" }, { name := " " }] =
      .error (.duplicateRule "a") :=
  ⟨rfl, rfl⟩

end RuleBook

end Escalation
