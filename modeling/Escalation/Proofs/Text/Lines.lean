import Escalation.Proofs.Text.Lowercase
import Escalation.Text.Search
import Mathlib.Data.List.Basic

/-!
# Texts joined line by line

A needle without the mark stands in texts that are joined by a mark exactly if it stands in one of
them (`infix_intercalate`): a stretch that reached over the mark would hold it.

The same is so in lower case if the mark is a line feed. A sigma looks no further than to the next
code point that is not ignorable, and a line feed is one, and it is no cased letter; so no text sees
that others stand before and after it, and the lower case of the joined texts is that of each, joined
(`Lowercase.lowercaseChars_intercalate`). And no other letter becomes a line feed
(`Lowercase.newline_mem_lowercaseChars`), so a needle in lower case has a line feed only if it had one.
-/

namespace Escalation.Text

variable {needle front back : List Char} {mark : Char}

/-! ## Joined texts -/

theorem eq_nil_of_prefix_mark (absent : mark ∉ needle) (starts : needle <+: mark :: back) :
    needle = [] := by
  rcases List.prefix_cons_iff.mp starts with none | ⟨rest, rfl, -⟩
  · exact none
  · exact absurd List.mem_cons_self absent

/-- A stretch without the mark lies before it or behind it. -/
theorem infix_append_mark (absent : mark ∉ needle) :
    needle <:+: front ++ mark :: back ↔ needle <:+: front ∨ needle <:+: back := by
  constructor
  · intro stands
    rcases List.infix_append_iff.mp stands with before | behind | ⟨start, rest, rfl, ends, starts⟩
    · exact .inl before
    · rcases List.infix_cons_iff.mp behind with starts | behind
      · exact .inr (eq_nil_of_prefix_mark absent starts ▸ List.nil_infix)
      · exact .inr behind
    · rw [eq_nil_of_prefix_mark (fun mem => absent (List.mem_append_right _ mem)) starts,
        List.append_nil]
      exact .inl ends.isInfix
  · rintro (before | behind)
    · exact before.trans (List.prefix_append _ _).isInfix
    · exact behind.trans ((List.suffix_cons _ _).trans (List.suffix_append _ _)).isInfix

/-- **What stands in joined texts stands in one of them**, if it does not hold the mark. -/
theorem infix_intercalate {texts : List (List Char)} (absent : mark ∉ needle) (some : texts ≠ []) :
    needle <:+: [mark].intercalate texts ↔ ∃ text ∈ texts, needle <:+: text := by
  induction texts with
  | nil => exact absurd rfl some
  | cons first texts ih =>
    cases texts with
    | nil => simp
    | cons next texts =>
      rw [List.intercalate_cons_cons, List.append_assoc, List.singleton_append,
        infix_append_mark absent, ih (List.cons_ne_nil _ _)]
      exact (List.exists_mem_cons_iff _ first _).symm

namespace Lowercase

variable {before later cs : List Char} {c : Char}

/-! ## What stands between words -/

theorem newline_parts : caseIgnorable.contains '\n' = false ∧ cased.contains '\n' = false := by
  decide +kernel

/-- No sigma looks past a line feed. -/
theorem meetsCased_newline (cs rest : List Char) : meetsCased (cs ++ '\n' :: rest) = meetsCased cs := by
  by_cases passed : Passed cs
  · rw [meetsCased_of_passed passed, meetsCased_passed passed, meetsCased,
      List.dropWhile_cons_of_neg (by rw [newline_parts.1]; exact Bool.false_ne_true)]
    exact newline_parts.2
  · exact meetsCased_of_stopped passed _

theorem within_ahead_of_newline (later : List Char) :
    within before ('\n' :: later) cs = within before [] cs := by
  refine within_congr fun front back _ => ?_
  rw [sigma, sigma, meetsCased_newline, List.append_nil]

theorem within_behind_newline (before : List Char) :
    within ('\n' :: before) later cs = within [] later cs := by
  refine within_congr fun front back _ => ?_
  rw [sigma, sigma, meetsCased_newline, List.append_nil]

theorem letter_newline : letter '\n' = ['\n'] := by
  decide +kernel

/-- **A line feed parts a text for lower case too.** -/
theorem lowercaseChars_append_newline (xs ys : List Char) :
    lowercaseChars (xs ++ '\n' :: ys) = lowercaseChars xs ++ '\n' :: lowercaseChars ys := by
  simp only [lowercaseChars, after_eq_within]
  rw [within_append, List.append_nil, within_ahead_of_newline, within, within_behind_newline,
    letter_newline]
  rfl

theorem lowercaseChars_intercalate (texts : List (List Char)) :
    lowercaseChars (['\n'].intercalate texts) = ['\n'].intercalate (texts.map lowercaseChars) := by
  induction texts with
  | nil => rfl
  | cons first texts ih =>
    cases texts with
    | nil => simp
    | cons next texts =>
      rw [List.map_cons] at ih
      rw [List.intercalate_cons_cons, List.append_assoc, List.singleton_append,
        lowercaseChars_append_newline, ih, List.map_cons, List.map_cons, List.intercalate_cons_cons,
        List.append_assoc, List.singleton_append]

/-! ## What becomes a line feed -/

theorem runs_above_newline : ∀ r ∈ runs, 10 < r.first + r.shift := by
  decide +kernel

/-- The character of a number has that number, or the number zero if there is none. -/
theorem toNat_ofNat_cases (n : Nat) : (Char.ofNat n).toNat = n ∨ (Char.ofNat n).toNat = 0 := by
  by_cases valid : n.isValidChar
  · exact .inl (congrArg Char.toNat (dif_pos valid))
  · exact .inr (congrArg Char.toNat (dif_neg valid))

/-- No letter has a line feed as its partner. -/
theorem newline_mem_letter : '\n' ∈ letter c ↔ c = '\n' := by
  refine ⟨fun mem => ?_, fun same => by rw [same, letter_newline]; exact List.mem_singleton_self _⟩
  unfold letter at mem
  split at mem
  · exact absurd mem (by decide)
  · have same := List.mem_singleton.mp mem
    cases found : runs.findSome? (·.image? c) with
    | none => rw [found] at same; exact same.symm
    | some image =>
      rw [found] at same
      obtain ⟨r, own, sent⟩ := List.exists_of_findSome?_eq_some found
      unfold CaseRun.image? at sent
      split at sent
      · next held =>
        simp only [CaseRun.holds, Bool.and_eq_true, decide_eq_true_eq] at held
        have above := runs_above_newline r own
        have there : 10 = (Char.ofNat (c.toNat + r.shift).toNat).toNat :=
          congrArg Char.toNat (same.trans (Option.some.inj sent).symm)
        rcases toNat_ofNat_cases (c.toNat + r.shift).toNat with code | code <;> omega
      · cases sent

theorem newline_mem_within : '\n' ∈ within before later cs ↔ '\n' ∈ cs := by
  induction cs generalizing before with
  | nil => rfl
  | cons c cs ih =>
    rw [within, List.mem_append, ih, List.mem_cons]
    refine or_congr_left ?_
    split
    · next isSigma =>
      rw [List.mem_singleton, beq_iff_eq.mp isSigma, sigma]
      split <;> decide
    · rw [newline_mem_letter, eq_comm]

/-- **A text has a line feed in lower case exactly if it has one.** -/
theorem newline_mem_lowercaseChars : '\n' ∈ lowercaseChars cs ↔ '\n' ∈ cs := by
  rw [lowercaseChars, after_eq_within, newline_mem_within]

end Lowercase

end Escalation.Text
