import Escalation.Text.Search
import Mathlib.Data.List.TakeWhile

/-!
# Searching and cutting texts

What the searches look for, in terms of lists: a prefix, a suffix, or a stretch (`occursIn_iff`). A
text is cut where a mark stands first (`cutAt_append`), pieces that were joined by a mark are what
stands between the marks (`piecesBetween_intercalate`), and trimming takes away nothing but blanks
(`BetweenBlanks`).
-/

namespace Escalation.Text

variable {needle text cs before : List Char} {c mark : Char}

theorem startsWith_iff : startsWith text needle = true ↔ needle <+: text :=
  List.isPrefixOf_iff_prefix

theorem endsWith_iff : endsWith text needle = true ↔ needle <:+ text :=
  List.isSuffixOf_iff_suffix

theorem occursIn_iff : occursIn needle text = true ↔ needle <:+: text := by
  induction text with
  | nil => rw [occursIn, List.isEmpty_iff, List.infix_nil]
  | cons c cs ih => rw [occursIn, Bool.or_eq_true, List.isPrefixOf_iff_prefix, ih, List.infix_cons_iff]

theorem cutAt_append (first : mark ∉ before) (after : List Char) :
    cutAt mark (before ++ mark :: after) = some (before, after) := by
  induction before with
  | nil => simp [cutAt]
  | cons c before ih =>
    obtain ⟨other, rest⟩ := not_or.mp (mt List.mem_cons.mpr first)
    simp [cutAt, Ne.symm other, ih rest]

theorem eq_append_of_cutAt {after : List Char} (cut : cutAt mark text = some (before, after)) :
    text = before ++ mark :: after ∧ mark ∉ before := by
  induction text generalizing before with
  | nil => cases cut
  | cons c cs ih =>
    rw [cutAt] at cut
    split at cut
    · next eq =>
      cases cut
      exact ⟨by rw [beq_iff_eq.mp eq]; rfl, List.not_mem_nil⟩
    · next other =>
      obtain ⟨⟨front, back⟩, found, eq⟩ := Option.map_eq_some_iff.mp cut
      cases eq
      obtain ⟨rfl, absent⟩ := ih found
      refine ⟨rfl, fun mem => ?_⟩
      rcases List.mem_cons.mp mem with rfl | mem
      · exact other (beq_self_eq_true _)
      · exact absent mem

/-! ## Pieces -/

theorem piecesBetween_of_absent (absent : mark ∉ cs) : piecesBetween mark cs = [cs] := by
  induction cs with
  | nil => rfl
  | cons c cs ih =>
    obtain ⟨other, rest⟩ := not_or.mp (mt List.mem_cons.mpr absent)
    rw [piecesBetween, ih rest, if_neg (by simpa using Ne.symm other)]

theorem piecesBetween_append (absent : mark ∉ cs) (rest : List Char) :
    piecesBetween mark (cs ++ mark :: rest) = cs :: piecesBetween mark rest := by
  induction cs with
  | nil => simp [piecesBetween]
  | cons c cs ih =>
    obtain ⟨other, absent⟩ := not_or.mp (mt List.mem_cons.mpr absent)
    rw [List.cons_append, piecesBetween, ih absent, if_neg (by simpa using Ne.symm other)]

/-- **Pieces that are joined by a mark are found again between the marks**, if none has one in it. -/
theorem piecesBetween_intercalate {pieces : List (List Char)} (some : pieces ≠ [])
    (absent : ∀ piece ∈ pieces, mark ∉ piece) :
    piecesBetween mark ([mark].intercalate pieces) = pieces := by
  induction pieces with
  | nil => exact absurd rfl some
  | cons first pieces ih =>
    obtain ⟨own, others⟩ := List.forall_mem_cons.mp absent
    cases pieces with
    | nil => rw [List.intercalate_singleton, piecesBetween_of_absent own]
    | cons next pieces =>
      rw [List.intercalate_cons_cons, List.append_assoc, List.singleton_append,
        piecesBetween_append own, ih (List.cons_ne_nil _ _) others]

/-! ## Trimming -/

theorem mem_trimStart (solid : isBlank c = false) : c ∈ trimStart cs ↔ c ∈ cs := by
  constructor
  · exact fun mem => (List.dropWhile_sublist _).subset mem
  · intro mem
    rw [← List.takeWhile_append_dropWhile (p := isBlank) (l := cs), List.mem_append] at mem
    refine mem.resolve_left fun blank => ?_
    rw [List.mem_takeWhile_imp blank] at solid
    cases solid

theorem mem_trimChars (solid : isBlank c = false) : c ∈ trimChars cs ↔ c ∈ cs := by
  rw [trimChars, List.mem_reverse, mem_trimStart solid, List.mem_reverse, mem_trimStart solid]

theorem trimStart_of_solid (solid : ∀ c ∈ cs, isBlank c = false) : trimStart cs = cs := by
  refine List.dropWhile_eq_self_iff.mpr fun some => ?_
  rw [solid _ (List.getElem_mem some)]
  exact Bool.false_ne_true

theorem trimStart_append (blank : ∀ c ∈ before, isBlank c = true) (cs : List Char) :
    trimStart (before ++ cs) = trimStart cs :=
  List.dropWhile_append_of_pos blank

theorem trimStart_split (cs : List Char) :
    ∃ before, cs = before ++ trimStart cs ∧ ∀ c ∈ before, isBlank c = true :=
  ⟨cs.takeWhile isBlank, List.takeWhile_append_dropWhile.symm, fun _ => List.mem_takeWhile_imp⟩

/-- **A text is its core with blanks around it**, at the start or at the end or nowhere. -/
def BetweenBlanks (core cs : List Char) : Prop :=
  ∃ before after, cs = before ++ core ++ after ∧ (∀ c ∈ before, isBlank c = true) ∧
    ∀ c ∈ after, isBlank c = true

theorem betweenBlanks_self (cs : List Char) : BetweenBlanks cs cs :=
  ⟨[], [], (List.append_nil cs).symm, List.forall_mem_nil _, List.forall_mem_nil _⟩

/-- Trimming takes away nothing but blanks. -/
theorem betweenBlanks_trimChars (cs : List Char) : BetweenBlanks (trimChars cs) cs := by
  obtain ⟨before, front, blankBefore⟩ := trimStart_split cs
  obtain ⟨after, back, blankAfter⟩ := trimStart_split (trimStart cs).reverse
  refine ⟨before, after.reverse, ?_, blankBefore, fun c mem => blankAfter c (List.mem_reverse.mp mem)⟩
  have ends : trimStart cs = trimChars cs ++ after.reverse := by
    rw [trimChars, ← List.reverse_append, ← back, List.reverse_reverse]
  rw [List.append_assoc, ← ends]
  exact front

/-- **What has no blank in it is found between blanks** by trimming. -/
theorem BetweenBlanks.trimChars {core : List Char} (between : BetweenBlanks core cs)
    (solid : ∀ c ∈ core, isBlank c = false) : Text.trimChars cs = core := by
  obtain ⟨before, after, rfl, blankBefore, blankAfter⟩ := between
  rw [Text.trimChars, List.append_assoc, trimStart_append blankBefore]
  cases core with
  | nil =>
    have none : trimStart after = [] := List.dropWhile_eq_nil_iff.mpr blankAfter
    rw [List.nil_append, none]
    rfl
  | cons first rest =>
    have start : trimStart (first :: rest ++ after) = first :: rest ++ after :=
      List.dropWhile_cons_of_neg (by rw [solid first List.mem_cons_self]; exact Bool.false_ne_true)
    have backwards : ∀ c ∈ after.reverse, isBlank c = true :=
      fun c mem => blankAfter c (List.mem_reverse.mp mem)
    have reversed : ∀ c ∈ (first :: rest).reverse, isBlank c = false :=
      fun c mem => solid c (List.mem_reverse.mp mem)
    rw [start, List.reverse_append, trimStart_append backwards, trimStart_of_solid reversed,
      List.reverse_reverse]

end Escalation.Text
