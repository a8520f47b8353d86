import Escalation.Proofs.Condition.Rejection
import Escalation.Proofs.Rule.Exhaustive

/-!
# The two paths through a rule

The conditions of a rule are evaluated up to the first that does not hold, or all of them. Both paths
come to one verdict on every rule, valid or not, and what the fast path tells is what the exhaustive
path tells up to the place where it ends (`Rule.traces_fast`).

They may tell of different errors, since the exhaustive path goes on behind a condition that is
false. Each tells of a condition that could not be decided, with its place, and they differ in what
they ask of the conditions before it (`Rule.FailsAt`): that these could be decided, on the exhaustive
path, and that they held, on the fast one. So an error of the fast path is the error of the rule,
and behind a false condition it has none. `Rule.paths_agree` is the whole of it.
-/

namespace Escalation

variable {scope : Scope}

namespace Rule

open Condition (PatternKey)

variable {compile : PatternKey → Option Pattern}

/-! ## Traces -/

/-- Traces up to the first that tells of a condition that did not hold, with it. -/
def upToFailure (traces : List ConditionTrace) : List ConditionTrace :=
  traces.takeWhile (·.result) ++ (traces.find? (!·.result)).toList

/-- **The fast path is the first part of the exhaustive one**, up to the first condition that does not
hold. -/
theorem traces_fast (conditions : List Condition) : ∀ index,
    tracesWith compile .fast scope index conditions =
      upToFailure (tracesWith compile .exhaustive scope index conditions) := by
  induction conditions with
  | nil => exact fun _ => rfl
  | cons c cs ih =>
    intro index
    have all : tracesWith compile .exhaustive scope index (c :: cs) =
        c.trace index (c.evaluateWith compile scope) ::
          tracesWith compile .exhaustive scope (index + 1) cs := rfl
    rw [all, upToFailure, List.takeWhile_cons, List.find?_cons, tracesWith]
    cases (c.trace index (c.evaluateWith compile scope)).result with
    | true => simpa [upToFailure] using ih (index + 1)
    | false => simp

/-- A trace tells that its condition held exactly if the condition did. -/
theorem trace_result_iff (c : Condition) (index : Nat) :
    (c.trace index (c.evaluate scope)).result = true ↔ (c.evaluate scope).verdict = .ok true := by
  unfold Condition.trace
  cases (c.evaluate scope).verdict <;> simp

/-! ## Errors -/

/-- The first condition of a list, counted from a number on, that could not be decided, if the
verdicts on those before it are as asked. -/
def FailsFrom (scope : Scope) (earlier : Except ConditionFault Bool → Prop) (name : String)
    (index : Nat) (conditions : List Condition) (d : Diagnostic) : Prop :=
  ∃ i c cause, conditions[i]? = some c ∧ (c.evaluate scope).verdict = .error cause ∧
    d = ⟨name, some (index + i), cause.message⟩ ∧
    ∀ j < i, ∀ b, conditions[j]? = some b → earlier (b.evaluate scope).verdict

/-- **A rule fails at a condition**: it could not be decided, the error tells its place and the
reason, and the verdicts on the conditions before it are as asked. -/
def FailsAt (scope : Scope) (rule : Rule) (earlier : Except ConditionFault Bool → Prop)
    (d : Diagnostic) : Prop :=
  FailsFrom scope earlier rule.name 0 rule.conditions d

variable {earlier : Except ConditionFault Bool → Prop} {name : String} {d : Diagnostic}

/-- It is the condition in front, or one behind it and then the one in front is as asked. -/
theorem failsFrom_cons {c : Condition} {cs : List Condition} {index : Nat} :
    FailsFrom scope earlier name index (c :: cs) d ↔
      (∃ cause, (c.evaluate scope).verdict = .error cause ∧
        d = ⟨name, some index, cause.message⟩) ∨
      earlier (c.evaluate scope).verdict ∧ FailsFrom scope earlier name (index + 1) cs d := by
  constructor
  · rintro ⟨i, failing, cause, place, failed, told, before⟩
    cases i with
    | zero =>
      cases place
      exact .inl ⟨cause, failed, told⟩
    | succ i =>
      refine .inr ⟨before 0 (Nat.succ_pos i) c rfl, i, failing, cause, place, failed, ?_, ?_⟩
      · rw [told, Nat.add_assoc, Nat.add_comm 1]
      · exact fun j lt b at_j => before (j + 1) (Nat.succ_lt_succ lt) b at_j
  · rintro (⟨cause, failed, told⟩ | ⟨first, i, failing, cause, place, failed, told, before⟩)
    · exact ⟨0, c, cause, rfl, failed, told, fun j lt => absurd lt (Nat.not_lt_zero j)⟩
    · refine ⟨i + 1, failing, cause, place, failed, ?_, ?_⟩
      · rw [told, Nat.add_assoc, Nat.add_comm 1]
      · intro j lt b at_j
        cases j with
        | zero =>
          cases at_j
          exact first
        | succ j => exact before j (Nat.lt_of_succ_lt_succ lt) b at_j

theorem not_failsFrom_nil {index : Nat} : ¬ FailsFrom scope earlier name index [] d := by
  rintro ⟨i, c, cause, place, -⟩
  cases place

/-- **On the exhaustive path the error is that of the first condition that could not be decided.** -/
theorem traces_exhaustive_eq_some (conditions : List Condition) : ∀ index,
    (tracesWith PatternKey.compile? .exhaustive scope index conditions).findSome?
        (·.diagnostic? name) = some d ↔
      FailsFrom scope (fun v => ∃ b, v = .ok b) name index conditions d := by
  induction conditions with
  | nil => exact fun _ => iff_of_false nofun not_failsFrom_nil
  | cons c cs ih =>
    intro index
    have all : tracesWith PatternKey.compile? .exhaustive scope index (c :: cs) =
        c.trace index (c.evaluate scope) ::
          tracesWith PatternKey.compile? .exhaustive scope (index + 1) cs := rfl
    rw [all, List.findSome?_cons, failsFrom_cons, ← ih (index + 1)]
    cases verdict : (c.evaluate scope).verdict with
    | error cause =>
      simp [ConditionTrace.diagnostic?, Condition.trace, verdict, eq_comm]
    | ok result =>
      simp [ConditionTrace.diagnostic?, Condition.trace, verdict]

/-- **On the fast path it is that of the first condition that does not hold**, if that one could not
be decided. -/
theorem diagnose_eq_some (conditions : List Condition) : ∀ index,
    diagnose scope name index conditions = some d ↔
      FailsFrom scope (· = .ok true) name index conditions d := by
  induction conditions with
  | nil => exact fun _ => iff_of_false nofun not_failsFrom_nil
  | cons c cs ih =>
    intro index
    rw [diagnose, failsFrom_cons, ← ih (index + 1)]
    cases (c.evaluate scope).verdict with
    | error cause => simp [eq_comm]
    | ok result => cases result <;> simp

/-! ## The whole -/

/-- **The two paths through a rule agree.** -/
structure PathsAgree (scope : Scope) (rule : Rule) : Prop where
  /-- On either path the rule matches exactly if every condition evaluates to true. -/
  matched : ∀ thoroughness, (rule.run thoroughness scope).matched = true ↔
    ∀ c ∈ rule.conditions, (c.evaluate scope).verdict = .ok true
  /-- So the order of the conditions does not matter. -/
  reordered : ∀ thoroughness (other : Rule), other.conditions.Perm rule.conditions →
    (other.run thoroughness scope).matched = (rule.run thoroughness scope).matched
  /-- The exhaustive path has a trace for every condition. -/
  complete : (rule.run .exhaustive scope).conditions.length = rule.conditions.length
  /-- It stands at the place of its condition, tells that place, and tells whether it held. -/
  traced : ∀ i c, rule.conditions[i]? = some c → ∃ t : ConditionTrace,
    (rule.run .exhaustive scope).conditions[i]? = some t ∧ t = c.trace i (c.evaluate scope) ∧
      t.index = i ∧ (t.result = true ↔ (c.evaluate scope).verdict = .ok true)
  /-- The fast path ends right after the first condition that does not hold. -/
  cut : (rule.run .fast scope).conditions = upToFailure (rule.run .exhaustive scope).conditions
  /-- The exhaustive path tells of the first condition that could not be decided. -/
  error : ∀ d, (rule.run .exhaustive scope).diagnostic = some d ↔
    rule.FailsAt scope (fun verdict => ∃ result, verdict = .ok result) d
  /-- The fast path tells of the first condition that does not hold, if that could not be decided. -/
  fastError : ∀ d, (rule.run .fast scope).diagnostic = some d ↔
    rule.FailsAt scope (· = .ok true) d
  /-- Then it tells of the same error. -/
  sameError : ∀ d, (rule.run .fast scope).diagnostic = some d →
    (rule.run .exhaustive scope).diagnostic = some d

/-- **The two paths agree on every rule and every scope.** -/
theorem paths_agree (scope : Scope) (rule : Rule) : rule.PathsAgree scope := by
  have matched (rule : Rule) (thoroughness : Thoroughness) :
      (rule.run thoroughness scope).matched = true ↔
        ∀ c ∈ rule.conditions, (c.evaluate scope).verdict = .ok true := by
    rw [run_matched]
    exact holds_iff
  have traces : (rule.run .exhaustive scope).conditions = _ := tracesWith_exhaustive rule.conditions 0
  refine ⟨matched rule, ?_, ?_, ?_, traces_fast rule.conditions 0, ?_, ?_, ?_⟩
  · intro thoroughness other perm
    rw [Bool.eq_iff_iff, matched, matched]
    exact forall_congr' fun c => by rw [perm.mem_iff]
  · rw [traces, List.length_map, List.length_zipIdx]
  · intro i c place
    refine ⟨_, ?_, rfl, rfl, trace_result_iff c i⟩
    rw [traces, List.getElem?_map, List.getElem?_zipIdx, place, Nat.zero_add]
    rfl
  · exact fun d => traces_exhaustive_eq_some rule.conditions 0
  · intro d
    rw [run_fast_diagnostic]
    exact diagnose_eq_some rule.conditions 0
  · intro d told
    rw [run_fast_diagnostic] at told
    exact run_exhaustive_diagnostic told

/-- A condition that is false stands before one that cannot be decided. -/
example :
    let rule : Rule :=
      { name := "a"
        conditions := [.on .userAttribute "tier" .exists .null,
          .on .entity "order" .startsWith (.text "A")] }
    (rule.run .fast default).diagnostic = none ∧
      (rule.run .exhaustive default).diagnostic.map (·.conditionIndex) = some (some 1) := by
  decide

end Rule

end Escalation
