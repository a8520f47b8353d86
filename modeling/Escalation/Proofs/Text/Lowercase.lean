import Escalation.Text.Lowercase
import Mathlib.Data.List.TakeWhile
import Mathlib.Data.List.Count

/-!
# Lower case of a part

A text in lower case is made letter by letter, but for the capital sigma: at the end of a word it has
a form of its own, so it looks at what stands around it. A stretch of a text (`Lowercase.within`) may
therefore differ from the same characters put in lower case alone.

It differs at most in a sigma with nothing but ignorable code points between it and an end of the
stretch. A sigma that opens the stretch can become the last letter of a word that began before
(`Opens`), and a sigma that closes it can cease to be one (`Closes`). Without such a sigma the stretch
is steady (`within_steady`), so what stands in a text still stands in it in lower case. With one it is
not: a letter more before or after the characters is enough (`Opens.not_infix`, `Closes.not_infix`).
-/

namespace Escalation.Text.Lowercase

variable {text pre post before before' later later' front back cs : List Char}

/-! ## Stretches -/

/-- Lower case of a stretch with the first list, reversed, before it and the second after it. -/
def within (before later : List Char) : List Char → List Char
  | [] => []
  | c :: cs =>
    (if c == 'Σ' then [sigma before (cs ++ later)] else letter c) ++ within (c :: before) later cs

theorem after_eq_within (before cs : List Char) : after before cs = within before [] cs := by
  induction cs generalizing before with
  | nil => rfl
  | cons c cs ih => rw [after, within, ih, List.append_nil]

theorem within_append (before later xs ys : List Char) :
    within before later (xs ++ ys) =
      within before (ys ++ later) xs ++ within (xs.reverse ++ before) later ys := by
  induction xs generalizing before with
  | nil => rfl
  | cons c xs ih =>
    simp only [List.cons_append, within, ih, List.append_assoc, List.reverse_cons, List.nil_append]

/-- **A stretch depends on where it stands only through its sigmas.** -/
theorem within_congr (same : ∀ front back, cs = front ++ 'Σ' :: back →
      sigma (front.reverse ++ before) (back ++ later) =
        sigma (front.reverse ++ before') (back ++ later')) :
    within before later cs = within before' later' cs := by
  induction cs generalizing before before' with
  | nil => rfl
  | cons c cs ih =>
    -- What stands before a sigma further on is this letter too.
    have rest : within (c :: before) later cs = within (c :: before') later' cs := by
      refine ih fun front back eq => ?_
      simpa using same (c :: front) back (by rw [eq]; rfl)
    rw [within, within, rest]
    split
    · next isSigma =>
      have first := same [] cs (by rw [beq_iff_eq.mp isSigma]; rfl)
      simp only [List.reverse_nil, List.nil_append] at first
      rw [first]
    · rfl

/-! ## What a sigma looks at -/

theorem sigma_not_ignorable : caseIgnorable.contains 'Σ' = false := by
  decide +kernel

/-- Every code point is passed over. -/
def Passed (cs : List Char) : Prop :=
  ∀ c ∈ cs, caseIgnorable.contains c = true

theorem Passed.reverse (passed : Passed cs) : Passed cs.reverse :=
  fun c mem => passed c (List.mem_reverse.mp mem)

theorem Passed.dropWhile (passed : Passed cs) : cs.dropWhile caseIgnorable.contains = [] :=
  List.dropWhile_eq_nil_iff.mpr passed

theorem Passed.no_sigma (passed : Passed cs) : 'Σ' ∉ cs := fun mem =>
  Bool.false_ne_true (sigma_not_ignorable.symm.trans (passed _ mem))

theorem meetsCased_of_passed (passed : Passed cs) (rest : List Char) :
    meetsCased (cs ++ rest) = meetsCased rest := by
  rw [meetsCased, List.dropWhile_append, passed.dropWhile]
  rfl

theorem meetsCased_of_stopped (stopped : ¬ Passed cs) (rest : List Char) :
    meetsCased (cs ++ rest) = meetsCased cs := by
  have first : cs.dropWhile caseIgnorable.contains ≠ [] := mt List.dropWhile_eq_nil_iff.mp stopped
  rw [meetsCased, meetsCased, List.dropWhile_append, if_neg (by simpa using first)]
  cases found : cs.dropWhile caseIgnorable.contains with
  | nil => exact absurd found first
  | cons c cs => rfl

/-- What stands behind a sigma is not looked at from before it. -/
theorem meetsCased_sigma (cs rest : List Char) :
    meetsCased (cs ++ 'Σ' :: rest) = meetsCased (cs ++ ['Σ']) := by
  have stopped : ¬ Passed (cs ++ ['Σ']) := fun passed => passed.no_sigma (by simp)
  rw [← meetsCased_of_stopped stopped rest, List.append_assoc]
  rfl

/-- A sigma that may end a word, if one with a cased letter stands before the text. -/
def Opens (cs : List Char) : Prop :=
  ∃ front back, cs = front ++ 'Σ' :: back ∧ Passed front ∧ meetsCased back = false

/-- A sigma that ends a word, unless that goes on behind the text. -/
def Closes (cs : List Char) : Prop :=
  ∃ front back, cs = front ++ 'Σ' :: back ∧ Passed back ∧ meetsCased front.reverse = true

theorem sigma_steady (opens : pre = [] ∨ ¬ Opens (front ++ 'Σ' :: back))
    (closes : post = [] ∨ ¬ Closes (front ++ 'Σ' :: back)) :
    sigma (front.reverse ++ pre) (back ++ post) = sigma front.reverse back := by
  unfold sigma
  by_cases passedFront : Passed front
  · -- Nothing but what stands before the text can be the cased letter before the sigma.
    have alone : meetsCased front.reverse = false := by
      rw [← List.append_nil front.reverse, meetsCased_of_passed passedFront.reverse]
      rfl
    rw [alone, meetsCased_of_passed passedFront.reverse]
    rcases opens with rfl | steady
    · rfl
    · have goesOn : meetsCased back = true := by
        by_contra stops
        exact steady ⟨front, back, rfl, passedFront, Bool.not_eq_true _ ▸ stops⟩
      have stopped : ¬ Passed back := fun passed => by
        rw [meetsCased, passed.dropWhile] at goesOn
        cases goesOn
      rw [meetsCased_of_stopped stopped, goesOn]
      simp
  · have stoppedFront : ¬ Passed front.reverse := fun passed =>
      passedFront (List.reverse_reverse front ▸ passed.reverse)
    rw [meetsCased_of_stopped stoppedFront]
    by_cases passedBack : Passed back
    · rcases closes with rfl | steady
      · rw [List.append_nil]
      · have none : meetsCased front.reverse = false := by
          by_contra some
          exact steady ⟨front, back, rfl, passedBack, Bool.not_eq_false _ ▸ some⟩
        rw [none]
        simp
    · rw [meetsCased_of_stopped passedBack]

/-- **A stretch is the characters put in lower case alone**, if no sigma that opens it stands behind
other text and none that closes it before other text. -/
theorem within_steady (opens : pre = [] ∨ ¬ Opens cs) (closes : post = [] ∨ ¬ Closes cs) :
    within pre post cs = lowercaseChars cs := by
  rw [lowercaseChars, after_eq_within]
  refine within_congr fun front back eq => ?_
  rw [eq] at opens closes
  rw [List.append_nil, List.append_nil]
  exact sigma_steady opens closes

theorem lowercaseChars_append (pre cs post : List Char) :
    lowercaseChars (pre ++ (cs ++ post)) = within [] (cs ++ post) pre ++
      (within pre.reverse post cs ++ within (cs.reverse ++ pre.reverse) [] post) := by
  rw [lowercaseChars, after_eq_within, within_append, within_append]
  simp only [List.append_nil]

theorem lowercaseChars_prefix (starts : cs <+: text) (closes : ¬ Closes cs) :
    lowercaseChars cs <+: lowercaseChars text := by
  obtain ⟨post, rfl⟩ := starts
  have cut := lowercaseChars_append [] cs post
  rw [List.nil_append, List.reverse_nil, within_steady (.inl rfl) (.inr closes)] at cut
  rw [cut]
  exact List.prefix_append _ _

theorem lowercaseChars_suffix (ends : cs <:+ text) (opens : ¬ Opens cs) :
    lowercaseChars cs <:+ lowercaseChars text := by
  obtain ⟨pre, rfl⟩ := ends
  have cut := lowercaseChars_append pre cs []
  rw [List.append_nil, within_steady (.inr opens) (.inl rfl)] at cut
  rw [cut]
  exact ⟨_, by rw [within, List.append_nil]⟩

theorem lowercaseChars_infix (stands : cs <:+: text) (opens : ¬ Opens cs) (closes : ¬ Closes cs) :
    lowercaseChars cs <:+: lowercaseChars text := by
  obtain ⟨pre, post, rfl⟩ := stands
  rw [List.append_assoc, lowercaseChars_append, within_steady (.inr opens) (.inr closes)]
  exact ⟨_, _, List.append_assoc _ _ _⟩

/-! ## Texts that are not steady -/

/-- Where one character gives way to another, it stands once less than it did. -/
theorem not_infix_of_changed {x y : Char} {xs ys : List Char} (other : y ≠ x) (notPre : x ∉ pre)
    (notPost : x ∉ post) : ¬ (xs ++ x :: ys) <:+: (pre ++ (xs ++ y :: ys ++ post)) := by
  intro stands
  have counted := stands.sublist.count_le x
  simp only [List.count_append, List.count_cons_self, List.count_cons_of_ne other,
    List.count_eq_zero_of_not_mem notPre, List.count_eq_zero_of_not_mem notPost] at counted
  omega

theorem within_of_no_sigma (absent : 'Σ' ∉ cs) : within before later cs = within before' later' cs :=
  within_congr fun front back eq => absurd (eq ▸ by simp) absent

/-- A sigma hides what stands on its one side from what stands on the other. -/
theorem within_behind_sigma (before before' : List Char) :
    within ('Σ' :: before) later back = within ('Σ' :: before') later back := by
  refine within_congr fun front _ eq => ?_
  rw [sigma, sigma, meetsCased_sigma _ before, meetsCased_sigma _ before']

theorem within_ahead_of_sigma (later later' : List Char) :
    within before ('Σ' :: later) front = within before ('Σ' :: later') front := by
  refine within_congr fun _ rest eq => ?_
  rw [sigma, sigma, meetsCased_sigma rest later, meetsCased_sigma rest later']

theorem within_at_sigma (before later front back : List Char) :
    within before later (front ++ 'Σ' :: back) = within before ('Σ' :: back ++ later) front ++
      sigma (front.reverse ++ before) (back ++ later) ::
        within ('Σ' :: (front.reverse ++ before)) later back := by
  rw [within_append]
  rfl

theorem meetsCased_passed (passed : Passed cs) : meetsCased cs = false := by
  rw [meetsCased, passed.dropWhile]

theorem letter_a : letter 'a' = ['a'] := by
  decide +kernel

theorem meetsCased_a : meetsCased ['a'] = true := by
  decide +kernel

/-- **Behind a letter the text is not found**: its first sigma ends the word there. -/
theorem Opens.not_infix (opens : Opens cs) :
    ¬ lowercaseChars cs <:+: lowercaseChars ('a' :: cs) := by
  obtain ⟨front, back, rfl, passed, stops⟩ := opens
  -- The letter turns this one sigma and no other, so one sigma less is left.
  have alone : sigma (front.reverse ++ []) (back ++ []) = 'σ' := by
    rw [List.append_nil, sigma, meetsCased_passed passed.reverse]
    rfl
  have behind : sigma (front.reverse ++ ['a']) (back ++ []) = 'ς' := by
    rw [List.append_nil, sigma, meetsCased_of_passed passed.reverse, meetsCased_a, stops]
    rfl
  have before : lowercaseChars (front ++ 'Σ' :: back) = within [] ('Σ' :: back) front ++
      'σ' :: within ('Σ' :: front.reverse) [] back := by
    rw [lowercaseChars, after_eq_within, within_at_sigma, alone]
    simp only [List.append_nil]
  have after : lowercaseChars ('a' :: (front ++ 'Σ' :: back)) = ['a'] ++
      (within [] ('Σ' :: back) front ++ 'ς' :: within ('Σ' :: front.reverse) [] back ++ []) := by
    have ahead : within ['a'] ('Σ' :: back ++ []) front = within [] ('Σ' :: back) front :=
      within_of_no_sigma passed.no_sigma
    rw [lowercaseChars, after_eq_within, within, within_at_sigma, behind, ahead, if_neg (by decide),
      letter_a, within_behind_sigma _ front.reverse, List.append_nil]
  rw [before, after]
  exact not_infix_of_changed (by decide) (by decide) (by decide)

/-- **Before a letter it is not found either**: its last sigma does not end the word any more. -/
theorem Closes.not_infix (closes : Closes cs) :
    ¬ lowercaseChars cs <:+: lowercaseChars (cs ++ ['a']) := by
  obtain ⟨front, back, rfl, passed, some⟩ := closes
  have alone : sigma (front.reverse ++ []) (back ++ []) = 'ς' := by
    rw [List.append_nil, List.append_nil, sigma, meetsCased_passed passed, some]
    rfl
  have goesOn : sigma (front.reverse ++ []) (back ++ ['a']) = 'σ' := by
    rw [List.append_nil, sigma, meetsCased_of_passed passed, meetsCased_a]
    simp
  have before : lowercaseChars (front ++ 'Σ' :: back) = within [] ('Σ' :: back) front ++
      'ς' :: within ('Σ' :: front.reverse) [] back := by
    rw [lowercaseChars, after_eq_within, within_at_sigma, alone]
    simp only [List.append_nil]
  have after : lowercaseChars ((front ++ 'Σ' :: back) ++ ['a']) = [] ++
      (within [] ('Σ' :: back) front ++ 'σ' :: within ('Σ' :: front.reverse) [] back ++ ['a']) := by
    have behind : within ('Σ' :: front.reverse) ['a'] back = within ('Σ' :: front.reverse) [] back :=
      within_of_no_sigma passed.no_sigma
    have last : within ((front ++ 'Σ' :: back).reverse ++ []) [] ['a'] = ['a'] := by
      rw [within, if_neg (by decide), letter_a]
      rfl
    rw [lowercaseChars, after_eq_within, within_append, within_at_sigma, last, List.append_nil,
      goesOn, List.append_nil, behind, List.cons_append, within_ahead_of_sigma _ back]
    rfl
  rw [before, after]
  exact not_infix_of_changed (by decide) (by decide) (by decide)

end Escalation.Text.Lowercase
