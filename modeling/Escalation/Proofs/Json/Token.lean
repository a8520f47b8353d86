import Escalation.Json.Printer
import Escalation.Json.Reader
import Mathlib.Data.List.TakeWhile
import Mathlib.Tactic.IntervalCases

/-!
# Numbers and texts of a document

The reader takes a number or a text off the front of what is left of a document. What follows it
there is the end, a comma or a closing bracket (`Follows`), and none of these can go on a number. So
how a number is read does not depend on what follows (`number?_append`), and a number is read back
inside a document exactly if it is on its own (`Number.ReadBack`). Integers of at most 64 bits are
(`readBack_integer`). A double is where the digits that were written lead the reader to it, which is
not so of all (`Json.decimal?`).

A text is read back always: quotes, backslashes and control characters are escaped, and every escape
denotes its character (`string?_quoted`).
-/

namespace Escalation.Json

open Escalation.Number (digitsValue signed)

variable {cs ds rest more before : List Char} {n : Number} {negative : Bool}

/-! ## What follows a number -/

/-- **What may follow a value** in a document. -/
def Follows (rest : List Char) : Prop :=
  ∀ c ∈ rest.head?, c = ',' ∨ c = ']' ∨ c = '\x7d'

theorem follows_nil : Follows [] :=
  nofun

theorem follows_cons {c : Char} (mark : c = ',' ∨ c = ']' ∨ c = '\x7d') (rest : List Char) :
    Follows (c :: rest) := by
  rintro _ ⟨⟩
  exact mark

theorem Follows.cases (follows : Follows rest) :
    rest = [] ∨ ∃ more, rest = ',' :: more ∨ rest = ']' :: more ∨ rest = '\x7d' :: more := by
  cases rest with
  | nil => exact .inl rfl
  | cons c more =>
    refine .inr ⟨more, ?_⟩
    rcases follows c rfl with rfl | rfl | rfl
    · exact .inl rfl
    · exact .inr (.inl rfl)
    · exact .inr (.inr rfl)

theorem Follows.not_isDigit (follows : Follows rest) : ∀ c ∈ rest.head?, c.isDigit = false := by
  intro c mem
  rcases follows c mem with rfl | rfl | rfl <;> rfl

theorem takeWhile_isDigit_append (follows : Follows rest) (cs : List Char) :
    (cs ++ rest).takeWhile Char.isDigit = cs.takeWhile Char.isDigit ∧
      (cs ++ rest).dropWhile Char.isDigit = cs.dropWhile Char.isDigit ++ rest := by
  induction cs with
  | nil =>
    cases rest with
    | nil => exact ⟨rfl, rfl⟩
    | cons c rest =>
      have other : ¬ c.isDigit = true := by rw [follows.not_isDigit c rfl]; exact Bool.false_ne_true
      exact ⟨List.takeWhile_cons_of_neg other, List.dropWhile_cons_of_neg other⟩
  | cons c cs ih =>
    by_cases digit : c.isDigit = true
    · simp only [List.cons_append, List.takeWhile_cons_of_pos digit,
        List.dropWhile_cons_of_pos digit, ih, and_self]
    · simp only [List.cons_append, List.takeWhile_cons_of_neg digit,
        List.dropWhile_cons_of_neg digit, and_self]

/-- What a reader gives of a longer text: the same, and what follows is left over. -/
def andThen {α : Type} (rest : List Char) (read : Option (α × List Char)) :
    Option (α × List Char) :=
  read.map fun (a, left) => (a, left ++ rest)

theorem wholeDigits?_append (follows : Follows rest) (cs : List Char) :
    wholeDigits? (cs ++ rest) = andThen rest (wholeDigits? cs) := by
  obtain ⟨digits, left⟩ := takeWhile_isDigit_append follows cs
  unfold wholeDigits?
  rw [digits, left]
  split <;> rfl

theorem placeDigits?_append (follows : Follows rest) (cs : List Char) :
    placeDigits? (cs ++ rest) = andThen rest (placeDigits? cs) := by
  cases cs with
  | nil => rcases follows.cases with rfl | ⟨more, rfl | rfl | rfl⟩ <;> rfl
  | cons c cs =>
    by_cases point : c = '.'
    · obtain ⟨digits, left⟩ := takeWhile_isDigit_append follows cs
      subst point
      simp only [List.cons_append, placeDigits?, digits, left]
      split <;> rfl
    · simp [placeDigits?, point, andThen]

theorem signed_append (follows : Follows rest) (cs : List Char) :
    signed (cs ++ rest) = ((signed cs).1, (signed cs).2 ++ rest) := by
  cases cs with
  | nil => rcases follows.cases with rfl | ⟨more, rfl | rfl | rfl⟩ <;> rfl
  | cons c cs =>
    by_cases plus : c = '+'
    · rw [plus]
      rfl
    · by_cases minus : c = '-'
      · rw [minus]
        rfl
      · simp [signed, plus, minus]

theorem exponentDigits?_append (follows : Follows rest) (cs : List Char) :
    exponentDigits? (cs ++ rest) = andThen rest (exponentDigits? cs) := by
  cases cs with
  | nil => rcases follows.cases with rfl | ⟨more, rfl | rfl | rfl⟩ <;> rfl
  | cons c cs =>
    by_cases mark : (c == 'e' || c == 'E') = true
    · obtain ⟨digits, left⟩ := takeWhile_isDigit_append follows (signed cs).2
      simp only [List.cons_append, exponentDigits?, mark, if_true, signed_append follows, digits,
        left]
      split <;> rfl
    · simp only [List.cons_append, exponentDigits?, mark, Bool.false_eq_true, if_false]
      rfl

/-- **How a number is read does not depend on what follows.** -/
theorem number?_append (follows : Follows rest) (negative : Bool) (cs : List Char) :
    number? negative (cs ++ rest) = andThen rest (number? negative cs) := by
  unfold number?
  rw [wholeDigits?_append follows]
  cases wholeDigits? cs with
  | none => rfl
  | some whole =>
    simp only [andThen, Option.map_some, Option.bind_eq_bind, Option.bind_some,
      placeDigits?_append follows]
    cases placeDigits? whole.2 with
    | none => rfl
    | some places =>
      simp only [andThen, Option.map_some, Option.bind_some, exponentDigits?_append follows]
      cases exponentDigits? places.2 with
      | none => rfl
      | some exponent =>
        simp only [Option.map_some, Option.bind_some, apply_ite (Option.map _), Option.map_map]
        rfl

/-- A number that is read starts with a digit. -/
theorem exists_digit_of_number? {left : List Char} (read : number? negative cs = some (n, left)) :
    ∃ d ds, cs = d :: ds ∧ d.isDigit = true := by
  unfold number? wholeDigits? at read
  cases cs with
  | nil => cases read
  | cons d ds =>
    by_cases digit : d.isDigit = true
    · exact ⟨d, ds, rfl, digit⟩
    · rw [List.takeWhile_cons_of_neg digit] at read
      cases read

/-! ## Numbers that are read back -/

/-- **A number is read back** from its own text. -/
def Number.ReadBack (n : Number) : Prop :=
  (∃ cs, n.render.toList = '-' :: cs ∧ number? true cs = some (n, [])) ∨
    number? false n.render.toList = some (n, [])

/-- The digits of a number do not start with a zero, unless there is nothing else. -/
theorem toDigits_cases (n : Nat) : n = 0 ∨ ∃ d ds, Nat.toDigits 10 n = d :: ds ∧ d ≠ '0' := by
  induction n using Nat.strong_induction_on with
  | _ n ih =>
    by_cases small : n < 10
    · rw [Nat.toDigits_of_lt_base small]
      interval_cases n <;> simp
    · right
      rcases ih (n / 10) (by omega) with zero | ⟨d, ds, digits, nonzero⟩
      · omega
      · have split : n = 10 * (n / 10) + n % 10 := (Nat.div_add_mod n 10).symm
        rw [split, ← Nat.toDigits_append_toDigits (by decide) (by omega) (by omega), digits]
        exact ⟨d, _, rfl, nonzero⟩

theorem wholeDigits?_toDigits (n : Nat) :
    wholeDigits? (Nat.toDigits 10 n) = some (Nat.toDigits 10 n, []) := by
  have digits : ∀ c ∈ Nat.toDigits 10 n, c.isDigit = true := fun c mem =>
    Nat.isDigit_of_mem_toDigits (by decide) (by decide) mem
  have all : (Nat.toDigits 10 n).takeWhile Char.isDigit = Nat.toDigits 10 n :=
    List.takeWhile_eq_self_iff.mpr digits
  have none : (Nat.toDigits 10 n).dropWhile Char.isDigit = [] :=
    List.dropWhile_eq_nil_iff.mpr digits
  unfold wholeDigits?
  rw [all, none]
  rcases toDigits_cases n with rfl | ⟨d, ds, eq, nonzero⟩
  · rfl
  · rw [eq]
    simp [nonzero]

theorem digitsValue_toDigits (n : Nat) : digitsValue (Nat.toDigits 10 n) = n :=
  Nat.ofDigitChars_toDigits (by decide) (by decide)

theorem number?_toDigits {n : Nat} (fits : if negative then 0 < n ∧ n ≤ 2 ^ 63 else n < 2 ^ 64) :
    number? negative (Nat.toDigits 10 n) =
      some (.integer (if negative then -n else n), []) := by
  unfold number?
  simp only [wholeDigits?_toDigits, Option.bind_eq_bind, Option.bind_some, placeDigits?,
    exponentDigits?, digitsValue_toDigits]
  cases negative with
  | false =>
    have below : n < wordSize := fits
    simp [below]
  | true =>
    have above : ¬ n = 0 := Nat.ne_of_gt fits.1
    have below : n ≤ Nat.pow 2 63 := fits.2
    simp [above, below]

/-- **Integers of at most 64 bits are read back.** -/
theorem readBack_integer {n : Int} (low : -2 ^ 63 ≤ n) (high : n < 2 ^ 64) :
    (Number.integer n).ReadBack := by
  change (∃ cs, (toString n).toList = '-' :: cs ∧ _) ∨ number? false (toString n).toList = _
  rw [Int.toString_eq_repr, Int.repr_eq_if]
  split
  · next whole =>
    right
    have read := @number?_toDigits false n.toNat (by simp; omega)
    rw [Nat.repr_eq_ofList_toDigits, String.toList_ofList, read]
    simp [whole]
  · next below =>
    left
    have read := @number?_toDigits true (-n).toNat (by simp; omega)
    refine ⟨Nat.toDigits 10 (-n).toNat, ?_, ?_⟩
    · rw [Nat.repr_eq_ofList_toDigits, String.toList_append]
      simp
    · rw [read]
      simp; omega

/-! ## Texts -/

theorem unit?_append {u : Nat} (read : unit? cs = some (u, [])) (rest : List Char) :
    unit? (cs ++ rest) = some (u, rest) := by
  rcases cs with _ | ⟨a, _ | ⟨b, _ | ⟨c, _ | ⟨d, left⟩⟩⟩⟩
  iterate 4 cases read
  simp only [unit?, Option.bind_eq_bind, Option.bind_eq_some_iff, Option.some.injEq,
    Prod.mk.injEq, List.cons_append] at read ⊢
  obtain ⟨a, ha, b, hb, c, hc, d, hd, value, rfl⟩ := read
  exact ⟨a, ha, b, hb, c, hc, d, hd, value, List.nil_append rest⟩

theorem unit?_hexUnit : ∀ u < 32, unit? (hexUnit u).toList = some (u, []) := by
  decide

/-- **A character is read back** from what stands for it inside quotes. -/
theorem stringChars?_quotedChar (fuel : Nat) (before : List Char) (c : Char) (more : List Char) :
    stringChars? (fuel + 1) before ((quotedChar c).toList ++ more) =
      stringChars? fuel (c :: before) more := by
  unfold quotedChar
  split_ifs with quote backslash feed return_ tab backspace formFeed control
  · rw [beq_iff_eq.mp quote]
    rfl
  · rw [beq_iff_eq.mp backslash]
    rfl
  · rw [beq_iff_eq.mp feed]
    rfl
  · rw [beq_iff_eq.mp return_]
    rfl
  · rw [beq_iff_eq.mp tab]
    rfl
  · have same : c = Char.ofNat 8 := by rw [← beq_iff_eq.mp backspace, Char.ofNat_toNat]
    rw [same]
    rfl
  · have same : c = Char.ofNat 12 := by rw [← beq_iff_eq.mp formFeed, Char.ofNat_toNat]
    rw [same]
    rfl
  · have escaped : ("\\u" ++ hexUnit c.toNat).toList ++ more =
        '\\' :: 'u' :: ((hexUnit c.toNat).toList ++ more) := by
      rw [String.toList_append]
      rfl
    have read := unit?_append (unit?_hexUnit c.toNat control) more
    have low : ¬ 0xD800 ≤ c.toNat := by omega
    have low' : ¬ 0xDC00 ≤ c.toNat := by omega
    rw [escaped, stringChars?]
    simp [escape?, unicodeEscape?, read, low, low', Char.ofNat_toNat]
  · simp only [Char.toString_eq_singleton, String.toList_singleton, List.cons_append,
      List.nil_append]
    rw [stringChars?]
    simp [quote, backslash, control]

theorem toList_quoted (s : String) : (quoted s).toList =
    '"' :: (s.toList.flatMap fun c => (quotedChar c).toList) ++ ['"'] := by
  have chars : ∀ (cs : List Char) (text : String),
      (cs.foldl (fun text c => text ++ quotedChar c) text).toList =
        text.toList ++ cs.flatMap fun c => (quotedChar c).toList := by
    intro cs
    induction cs with
    | nil => simp
    | cons c cs ih => simp [ih]
  unfold quoted
  rw [String.toList_append, String.toList_append, chars]
  rfl

theorem stringChars?_quoted {fuel : Nat} (enough : cs.length < fuel) :
    stringChars? fuel before (cs.flatMap (fun c => (quotedChar c).toList) ++ '"' :: rest) =
      some (String.ofList (before.reverse ++ cs), rest) := by
  induction cs generalizing fuel before with
  | nil =>
    obtain ⟨fuel, rfl⟩ := Nat.exists_eq_add_one_of_ne_zero (Nat.ne_of_gt enough)
    simp [stringChars?]
  | cons c cs ih =>
    obtain ⟨fuel, rfl⟩ := Nat.exists_eq_add_one_of_ne_zero (Nat.ne_zero_of_lt enough)
    rw [List.flatMap_cons, List.append_assoc, stringChars?_quotedChar,
      ih (Nat.lt_of_succ_lt_succ enough)]
    simp

theorem length_le_flatMap_quotedChar (cs : List Char) :
    cs.length ≤ (cs.flatMap fun c => (quotedChar c).toList).length := by
  induction cs with
  | nil => exact Nat.le_refl 0
  | cons c cs ih =>
    have one : 1 ≤ (quotedChar c).toList.length := by
      unfold quotedChar
      split_ifs <;> simp
    rw [List.flatMap_cons, List.length_append, List.length_cons]
    omega

/-- **A text is read back** from its quotes, whatever follows. -/
theorem string?_quoted (s : String) : ∃ cs, (quoted s).toList = '"' :: cs ∧
    ∀ rest, string? (cs ++ rest) = some (s, rest) := by
  refine ⟨(s.toList.flatMap fun c => (quotedChar c).toList) ++ ['"'], toList_quoted s, fun rest => ?_⟩
  have shorter := length_le_flatMap_quotedChar s.toList
  rw [string?, List.append_assoc, List.singleton_append, stringChars?_quoted]
  · simp
  · rw [List.length_append]
    omega

end Escalation.Json
