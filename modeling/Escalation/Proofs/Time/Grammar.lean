import Escalation.Condition
import Escalation.Proofs.Time.Window
import Mathlib.Data.List.Basic

/-!
# How times are written

A time is an hour in one digit or two, a colon and a minute in two digits, with blanks around it that
do not count (`TimeOfDay.Denotes`). The digits are `0` to `9`: of each numeral it is said which
characters it consists of and which number it is (`TimeOfDay.Numeral`), so no other digit, no sign and
no blank inside is one. A window is a list of two times, or a text in which times stand before and
after the first dash (`TimeWindow.Denotes`).

What is read is what is written so, and nothing else (`TimeOfDay.read_eq_ok`, `TimeWindow.ofValue_eq_ok`).
A time that is shown is written so again (`TimeOfDay.denotes_display`), with no blanks and two digits
throughout, and reading it gives it back.
-/

namespace Escalation

/-! ## Digits -/

namespace TimeOfDay

/-- **One digit or two**, and the number that they are. -/
inductive Numeral : List Char → Nat → Prop
  | one {digit : Nat} (lt : digit < 10) : Numeral [digit.digitChar] digit
  | two {tens ones : Nat} (tens_lt : tens < 10) (ones_lt : ones < 10) :
    Numeral [tens.digitChar, ones.digitChar] (10 * tens + ones)

variable {cs hour minute : List Char} {h m n : Nat} {text : String} {time : TimeOfDay}

theorem value_digitChar {digit : Nat} (lt : digit < 10) :
    digit.digitChar.toNat - '0'.toNat = digit := by
  rw [Nat.toNat_digitChar_of_lt_ten lt]
  exact Nat.add_sub_cancel_left _ _

theorem exists_digitChar {c : Char} (digit : c.isDigit = true) : ∃ d < 10, c = d.digitChar := by
  obtain ⟨low, high⟩ := Char.isDigit_iff_toNat.mp digit
  change 48 ≤ c.toNat at low
  change c.toNat ≤ 57 at high
  refine ⟨c.toNat - 48, by omega, Char.toNat_inj.mp ?_⟩
  rw [Nat.toNat_digitChar_of_lt_ten (by omega)]
  omega

theorem isBlank_digitChar : ∀ {digit : Nat}, digit < 10 →
    Text.isBlank digit.digitChar = false := by
  decide

theorem Numeral.digits (numeral : Numeral cs n) : ∀ c ∈ cs, ∃ d < 10, c = d.digitChar := by
  cases numeral with
  | one lt => exact List.forall_mem_singleton.mpr ⟨_, lt, rfl⟩
  | two tens_lt ones_lt =>
    exact List.forall_mem_cons.mpr ⟨⟨_, tens_lt, rfl⟩, List.forall_mem_singleton.mpr ⟨_, ones_lt, rfl⟩⟩

theorem digitsValue_one {digit : Nat} (lt : digit < 10) :
    Number.digitsValue [digit.digitChar] = digit := by
  simp only [Number.digitsValue, List.foldl_cons, List.foldl_nil, value_digitChar lt]
  omega

theorem digitsValue_two {tens ones : Nat} (tens_lt : tens < 10) (ones_lt : ones < 10) :
    Number.digitsValue [tens.digitChar, ones.digitChar] = 10 * tens + ones := by
  simp only [Number.digitsValue, List.foldl_cons, List.foldl_nil, value_digitChar tens_lt,
    value_digitChar ones_lt]
  omega

/-- **A numeral** is one digit or two, and its number is what the digits come to. -/
theorem numeral_iff : Numeral cs n ↔
    (cs.length = 1 ∨ cs.length = 2) ∧ cs.all Char.isDigit = true ∧ Number.digitsValue cs = n := by
  constructor
  · intro numeral
    have digits : cs.all Char.isDigit = true := by
      refine List.all_eq_true.mpr fun c mem => ?_
      obtain ⟨d, lt, rfl⟩ := numeral.digits c mem
      rw [Nat.isDigit_digitChar, decide_eq_true lt]
    cases numeral with
    | one lt => exact ⟨.inl rfl, digits, digitsValue_one lt⟩
    | two tens_lt ones_lt => exact ⟨.inr rfl, digits, digitsValue_two tens_lt ones_lt⟩
  · rintro ⟨length, digits, rfl⟩
    rw [List.all_eq_true] at digits
    rcases length with one | two
    · obtain ⟨c, rfl⟩ := List.length_eq_one_iff.mp one
      obtain ⟨d, lt, rfl⟩ := exists_digitChar (digits c List.mem_cons_self)
      rw [digitsValue_one lt]
      exact .one lt
    · obtain ⟨c, c', rfl⟩ := List.length_eq_two.mp two
      obtain ⟨d, lt, rfl⟩ := exists_digitChar (digits c List.mem_cons_self)
      obtain ⟨d', lt', rfl⟩ := exists_digitChar (digits c' (List.mem_cons_of_mem _ List.mem_cons_self))
      rw [digitsValue_two lt lt']
      exact .two lt lt'

/-- No mark stands in a numeral. -/
theorem Numeral.not_mem {c : Char} (other : ∀ d < 10, c ≠ d.digitChar) (numeral : Numeral cs n) :
    c ∉ cs := by
  intro mem
  obtain ⟨d, lt, same⟩ := numeral.digits c mem
  exact other d lt same

/-- Below a hundred a number is shown as its two digits. -/
theorem toList_twoDigits (small : n < 100) :
    (twoDigits n).toList = [(n / 10).digitChar, (n % 10).digitChar] := by
  have repr : (toString n).toList = Nat.toDigits 10 n := by
    rw [Nat.toString_eq_repr, Nat.repr_eq_ofList_toDigits, String.toList_ofList]
  unfold twoDigits
  by_cases below : n < 10
  · rw [if_pos below, String.toList_append, repr, Nat.toDigits_of_lt_base below,
      Nat.div_eq_of_lt below, Nat.mod_eq_of_lt below]
    rfl
  · have split : n = 10 * (n / 10) + n % 10 := (Nat.div_add_mod n 10).symm
    have digits : Nat.toDigits 10 n = Nat.toDigits 10 (n / 10) ++ Nat.toDigits 10 (n % 10) := by
      conv_lhs => rw [split]
      exact (Nat.toDigits_append_toDigits (by decide) (by omega) (by omega)).symm
    rw [if_neg below, repr, digits, Nat.toDigits_of_lt_base (by omega),
      Nat.toDigits_of_lt_base (by omega)]
    rfl

theorem numeral_twoDigits (small : n < 100) : Numeral (twoDigits n).toList n := by
  rw [toList_twoDigits small]
  have number : Numeral [(n / 10).digitChar, (n % 10).digitChar] (10 * (n / 10) + n % 10) :=
    .two (by omega) (by omega)
  rwa [Nat.div_add_mod] at number

/-! ## Times -/

/-- **Hour and minute** with a colon between them, the minute in two digits. -/
inductive Spelled : List Char → Nat → Nat → Prop
  | intro {hour minute : List Char} {h m : Nat} (hours : Numeral hour h) (minutes : Numeral minute m)
    (pair : minute.length = 2) : Spelled (hour ++ ':' :: minute) h m

/-- **The grammar of times**: a text denotes a time if the hour and the minute of it, which a day must
have, are spelled between blanks. -/
def Denotes (text : String) (time : TimeOfDay) : Prop :=
  ∃ core h m, Text.BetweenBlanks core text.toList ∧ Spelled core h m ∧
    h < 24 ∧ m < 60 ∧ time.minutes = 60 * h + m

theorem Spelled.solid (spelled : Spelled cs h m) : ∀ c ∈ cs, Text.isBlank c = false := by
  obtain ⟨hours, minutes, -⟩ := spelled
  have digits {cs : List Char} {n : Nat} (numeral : Numeral cs n) :
      ∀ c ∈ cs, Text.isBlank c = false := by
    intro c mem
    obtain ⟨d, lt, rfl⟩ := numeral.digits c mem
    exact isBlank_digitChar lt
  exact List.forall_mem_append.mpr ⟨digits hours, List.forall_mem_cons.mpr ⟨rfl, digits minutes⟩⟩

/-- The hour and the minute that are found in a text are those that it spells. -/
theorem parts?_eq_some : parts? cs = some (h, m) ↔ Spelled cs h m := by
  constructor
  · intro found
    unfold parts? at found
    split at found
    · next hour minute cut =>
      obtain ⟨rfl, -⟩ := Text.eq_append_of_cutAt cut
      split at found
      · next shape =>
        simp only [Bool.and_eq_true, Bool.or_eq_true, beq_iff_eq] at shape
        obtain ⟨⟨⟨length, pair⟩, hours⟩, minutes⟩ := shape
        cases found
        exact .intro (numeral_iff.mpr ⟨length, hours, rfl⟩)
          (numeral_iff.mpr ⟨.inr pair, minutes, rfl⟩) pair
      · cases found
    · cases found
  · intro spelled
    cases spelled with
    | @intro hour minute _ _ hours minutes pair =>
      have cut : Text.cutAt ':' (hour ++ ':' :: minute) = some (hour, minute) :=
        Text.cutAt_append (hours.not_mem (by decide)) _
      obtain ⟨length, hourDigits, rfl⟩ := numeral_iff.mp hours
      obtain ⟨-, minuteDigits, rfl⟩ := numeral_iff.mp minutes
      have shape : ((hour.length == 1 || hour.length == 2) && minute.length == 2 &&
          hour.all Char.isDigit && minute.all Char.isDigit) = true := by
        rw [hourDigits, minuteDigits, pair]
        simpa using length
      simp only [parts?, cut, if_pos shape]

theorem ofHourMinute_eq_ok : ofHourMinute h m = .ok time ↔
    h < 24 ∧ m < 60 ∧ time.minutes = 60 * h + m := by
  unfold ofHourMinute
  by_cases within : h < 24 ∧ m < 60
  · rw [dif_pos within]
    constructor
    · intro same
      cases same
      exact ⟨within.1, within.2, by dsimp only; omega⟩
    · rintro ⟨-, -, minutes⟩
      obtain ⟨count, lt⟩ := time
      simp only at minutes
      subst minutes
      simp only [Nat.mul_comm]
  · rw [dif_neg within]
    exact iff_of_false nofun fun ⟨early, low, _⟩ => within ⟨early, low⟩

theorem parts?_trimChars : parts? (Text.trimChars cs) = some (h, m) ↔
    ∃ core, Text.BetweenBlanks core cs ∧ Spelled core h m := by
  rw [parts?_eq_some]
  constructor
  · intro spelled
    exact ⟨_, Text.betweenBlanks_trimChars cs, spelled⟩
  · rintro ⟨core, between, spelled⟩
    rwa [between.trimChars spelled.solid]

theorem mapError_eq_ok {ε ε' α : Type} {answer : Except ε α} {f : ε → ε'} {a : α} :
    answer.mapError f = .ok a ↔ answer = .ok a := by
  cases answer with
  | ok b => exact ⟨fun same => by cases same; rfl, fun same => by cases same; rfl⟩
  | error cause => exact iff_of_false nofun nofun

/-- **A text is read as exactly the time that it denotes.** -/
theorem read_eq_ok : read text = .ok time ↔ Denotes text time := by
  constructor
  · intro accepted
    unfold read at accepted
    split at accepted
    · next h m found =>
      obtain ⟨core, between, spelled⟩ := parts?_trimChars.mp found
      exact ⟨core, h, m, between, spelled, ofHourMinute_eq_ok.mp (mapError_eq_ok.mp accepted)⟩
    · cases accepted
  · rintro ⟨core, h, m, between, spelled, within⟩
    have found : parts? (Text.trimChars text.toList) = some (h, m) :=
      parts?_trimChars.mpr ⟨core, between, spelled⟩
    simp only [read, found]
    exact mapError_eq_ok.mpr (ofHourMinute_eq_ok.mpr within)

theorem ofValue_eq_ok {value : Value} : ofValue value = .ok time ↔
    ∃ text, value = .text text ∧ Denotes text time := by
  constructor
  · intro accepted
    cases value with
    | text s => exact ⟨s, rfl, read_eq_ok.mp accepted⟩
    | null | bool | number | list | object => cases accepted
  · rintro ⟨text, rfl, denotes⟩
    exact read_eq_ok.mpr denotes

/-- A time that is shown is written as the grammar says. -/
theorem denotes_display (time : TimeOfDay) : Denotes time.display time := by
  have hour : time.hour < 24 := Nat.div_lt_of_lt_mul time.minutes_lt
  have minute : time.minute < 60 := Nat.mod_lt _ (by decide)
  have pair : (twoDigits time.minute).toList.length = 2 := by
    rw [toList_twoDigits (by omega)]
    rfl
  refine ⟨time.display.toList, time.hour, time.minute, Text.betweenBlanks_self _, ?_, hour, minute,
    (Nat.div_add_mod _ _).symm⟩
  have shape : time.display.toList =
      (twoDigits time.hour).toList ++ ':' :: (twoDigits time.minute).toList := by
    simp [display]
  rw [shape]
  exact .intro (numeral_twoDigits (by omega)) (numeral_twoDigits (by omega)) pair

theorem Denotes.undashed (denotes : Denotes text time) : '-' ∉ text.toList :=
  not_mem_of_read (read_eq_ok.mpr denotes)

end TimeOfDay

/-! ## Windows -/

namespace TimeWindow

/-- **The grammar of windows**: a list of two times, or a text with times before and after its first
dash. -/
inductive Denotes : Value → TimeWindow → Prop
  | pair {start stop : String} {s e : TimeOfDay} (first : TimeOfDay.Denotes start s)
    (second : TimeOfDay.Denotes stop e) : Denotes (.list [.text start, .text stop]) ⟨s, e⟩
  | dash {start stop : String} {s e : TimeOfDay} (undashed : '-' ∉ start.toList)
    (first : TimeOfDay.Denotes start s) (second : TimeOfDay.Denotes stop e) :
    Denotes (.text (start ++ "-" ++ stop)) ⟨s, e⟩

variable {value : Value} {window : TimeWindow} {start stop : String}

theorem both_eq_ok {first second : Except TimeFault TimeOfDay} :
    (do return ⟨← first, ← second⟩ : Except TimeFault TimeWindow) = .ok window ↔
      first = .ok window.start ∧ second = .ok window.stop := by
  constructor
  · intro both
    cases first with
    | error cause => cases both
    | ok s =>
      cases second with
      | error cause => cases both
      | ok e =>
        cases both
        exact ⟨rfl, rfl⟩
  · rintro ⟨rfl, rfl⟩
    rfl

/-- **A value is read as exactly the window that it denotes.** -/
theorem ofValue_eq_ok : ofValue value = .ok window ↔ Denotes value window := by
  constructor
  · intro accepted
    unfold ofValue at accepted
    split at accepted
    · next start stop =>
      obtain ⟨isStart, isStop⟩ := both_eq_ok.mp accepted
      obtain ⟨_, rfl, first⟩ := TimeOfDay.ofValue_eq_ok.mp isStart
      obtain ⟨_, rfl, second⟩ := TimeOfDay.ofValue_eq_ok.mp isStop
      exact .pair first second
    · next s =>
      split at accepted
      · next start stop cut =>
        obtain ⟨shape, undashed⟩ := Text.eq_append_of_cutAt cut
        obtain ⟨first, second⟩ := both_eq_ok.mp accepted
        have joined : s = String.ofList start ++ "-" ++ String.ofList stop := by
          apply String.toList_injective
          rw [shape]
          simp
        rw [joined]
        exact .dash (by rwa [String.toList_ofList]) (TimeOfDay.read_eq_ok.mp first)
          (TimeOfDay.read_eq_ok.mp second)
      · cases accepted
    · cases accepted
  · intro denotes
    cases denotes with
    | pair first second =>
      exact Spells.pair.ofValue (TimeOfDay.read_eq_ok.mpr first) (TimeOfDay.read_eq_ok.mpr second)
    | dash undashed first second =>
      exact Spells.dash.ofValue (TimeOfDay.read_eq_ok.mpr first) (TimeOfDay.read_eq_ok.mpr second)

theorem denotes_pair : Denotes (.list [.text start, .text stop]) window ↔
    TimeOfDay.Denotes start window.start ∧ TimeOfDay.Denotes stop window.stop := by
  constructor
  · intro denotes
    cases denotes with
    | pair first second => exact ⟨first, second⟩
  · rintro ⟨first, second⟩
    exact .pair first second

/-- The dash between two times is the first one, since times have none. -/
theorem denotes_dash : Denotes (.text (start ++ "-" ++ stop)) window ↔
    TimeOfDay.Denotes start window.start ∧ TimeOfDay.Denotes stop window.stop := by
  constructor
  · intro denotes
    -- A text may be put together in more than one way. Neither part of the other way has a dash either.
    generalize joined : Value.text (start ++ "-" ++ stop) = value at denotes
    cases denotes with
    | pair => cases joined
    | @dash start' stop' s e undashed first second =>
      have shape : start'.toList ++ '-' :: stop'.toList = start.toList ++ '-' :: stop.toList := by
        have same := congrArg String.toList (Value.text.inj joined)
        simpa using same.symm
      obtain ⟨front, -, back⟩ :=
        (List.append_cons_inj_of_notMem undashed second.undashed).mp shape
      rw [← String.toList_injective front, ← String.toList_injective back]
      exact ⟨first, second⟩
  · rintro ⟨first, second⟩
    exact .dash first.undashed first second

theorem denotes_display (window : TimeWindow) : Denotes (.text window.display) window :=
  denotes_dash.mpr ⟨window.start.denotes_display, window.stop.denotes_display⟩

end TimeWindow

/-! ## Reading -/

/-- **A reading is exact**: it gives what is denoted, and where nothing is denoted it fails with a
fault of the operand's type. -/
structure ReadsExactly {α : Type} (answer : Except TimeFault α) (denoted : α → Prop) : Prop where
  accepts : ∀ a, answer = .ok a ↔ denoted a
  refuses : (∀ a, ¬denoted a) →
    ∃ fault, answer = .error fault ∧ (ConditionFault.time fault).kind = .conditionType

theorem ReadsExactly.of_iff {α : Type} {answer : Except TimeFault α} {denoted : α → Prop}
    (accepts : ∀ a, answer = .ok a ↔ denoted a) : ReadsExactly answer denoted := by
  refine ⟨accepts, fun none => ?_⟩
  cases answer with
  | ok a => exact absurd ((accepts a).mp rfl) (none a)
  | error fault => exact ⟨fault, rfl, rfl⟩

/-- **Times and windows are read by exactly their grammar.** The two ways to write a window agree, and
what is shown of a time or of a window is read as it. -/
theorem TimeWindow.times_read :
    (∀ text, ReadsExactly (TimeOfDay.read text) (TimeOfDay.Denotes text)) ∧
    (∀ value, ReadsExactly (ofValue value) (Denotes value)) ∧
    (∀ start stop window, ofValue (.list [.text start, .text stop]) = .ok window ↔
      ofValue (.text (start ++ "-" ++ stop)) = .ok window) ∧
    (∀ time, TimeOfDay.read time.display = .ok time) ∧
    ∀ window, ofValue (.text window.display) = .ok window := by
  refine ⟨fun text => .of_iff fun _ => TimeOfDay.read_eq_ok,
    fun value => .of_iff fun _ => ofValue_eq_ok, fun start stop window => ?_,
    fun time => TimeOfDay.read_eq_ok.mpr time.denotes_display,
    fun window => ofValue_eq_ok.mpr window.denotes_display⟩
  rw [ofValue_eq_ok, ofValue_eq_ok, denotes_pair, denotes_dash]

example : TimeOfDay.read "\u2003 9:05\t" = .ok ⟨9 * 60 + 5, by decide⟩ := by decide

example : ∀ text ∈ ["9:5", "+9:05", "9 :05", "9:05:00", "٩:05", "24:00"],
    TimeOfDay.read text = .error (.malformed text) := by
  decide

end Escalation
