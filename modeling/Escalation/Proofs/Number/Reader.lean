import Escalation.Number.Reader
import Escalation.Proofs.Number.Order
import Escalation.Proofs.Text.Search

/-!
# What is read as a number

Reading a number gives something that is not a number for one word only, in any case and with any
sign in front (`isNaN_read?`). The decimal notation never does, however great or small the exponent
is (`isNaN_ofDecimal`). Nothing with a colon in it is read at all (`colon_not_mem_of_read?`).

For decimals the operations that make a double of a decimal are followed one by one: rounding
gives an infinity at most (`isNaN_round`), products and quotients go wrong only for a zero and an
infinity, and powers of ten are neither (`IsOrdinary`), and what is packed is unpacked as it was
(`isNaN_pack`).
-/

namespace Escalation.Number

open Float.Model Float.Model.UnpackedFloat

/-! ## Packing -/

/-- Bits are a number unless the exponent is the greatest and the mantissa is not zero. -/
theorem isNaN_unpack {spec : Format} {b : BitVec spec.numBits}
    (h : unpackExponent b ≠ -1#_ ∨ unpackMantissa b = 0#_) :
    (UnpackedFloat.unpack spec b).isNaN = false := by
  unfold UnpackedFloat.unpack
  dsimp only
  by_cases greatest : unpackExponent b = -1#_
  · rw [if_pos greatest, if_pos (h.resolve_left (absurd greatest))]
    rfl
  · rw [if_neg greatest]
    split
    · split <;> rfl
    · rfl

theorem isNaN_unpack_components {spec : Format} (s : Sign) {e : BitVec spec.exponentBits}
    {m : BitVec spec.mantissaBitsWithoutImplicit} (h : e ≠ -1#_ ∨ m = 0#_) :
    (UnpackedFloat.unpack spec (packComponents spec s e m)).isNaN = false :=
  isNaN_unpack (by rwa [unpackExponent_packComponents, unpackMantissa_packComponents])

/-- **What is packed is a number exactly if it was one.** -/
theorem isNaN_pack (u : UnpackedFloat) : (Float.Model.pack u).isNaN = u.isNaN := by
  change (UnpackedFloat.unpack Format.binary64 (UnpackedFloat.pack Format.binary64 u)).isNaN = _
  cases u with
  | notANumber => decide
  | infinity s => exact isNaN_unpack_components _ (.inr rfl)
  | zero s => exact isNaN_unpack_components _ (.inr rfl)
  | finite s m e pos =>
    rw [UnpackedFloat.pack]
    dsimp only
    split
    · exact isNaN_unpack_components _ (.inr rfl)
    · next small =>
      split
      · -- The greatest exponent would have been too great.
        refine isNaN_unpack_components _ (.inl fun greatest => small ?_)
        have size := congrArg BitVec.toNat greatest
        rw [BitVec.toNat_ofNat] at size
        have last : (-1#11).toNat = 2 ^ 11 - 1 := rfl
        change _ % 2 ^ 11 = (-1#11).toNat at size
        rw [last] at size
        change 2 ^ 11 ≤ _ + 1
        omega
      · exact isNaN_unpack_components _ (.inl (by decide))

/-! ## Rounding, products and quotients -/

theorem isNaN_round {spec : Format} (s : Sign) (m : Nat) (e : Int) (a : Accuracy) :
    (roundWithAccuracy spec s m e a).isNaN = false := by
  unfold roundWithAccuracy
  dsimp only
  split <;> rfl

/-- A finite number that is not zero. -/
def IsOrdinary (u : UnpackedFloat) : Prop :=
  ∃ s m e pos, u = .finite s m e pos

instance (u : UnpackedFloat) : Decidable (IsOrdinary u) :=
  match u with
  | .finite s m e pos => .isTrue ⟨s, m, e, pos, rfl⟩
  | .notANumber | .infinity _ | .zero _ => .isFalse fun ⟨_, _, _, _, eq⟩ => nomatch eq

theorem isNaN_mul {spec : Format} {a b : UnpackedFloat} (ha : a.isNaN = false) (hb : IsOrdinary b) :
    (UnpackedFloat.mul spec a b).isNaN = false := by
  obtain ⟨s, m, e, pos, rfl⟩ := hb
  cases a with
  | notANumber => cases ha
  | infinity | zero => rfl
  | finite => exact isNaN_round ..

theorem isNaN_div {spec : Format} {a b : UnpackedFloat} (ha : a.isNaN = false) (hb : IsOrdinary b) :
    (UnpackedFloat.div spec a b).isNaN = false := by
  obtain ⟨s, m, e, pos, rfl⟩ := hb
  cases a with
  | notANumber => cases ha
  | infinity | zero => rfl
  | finite => exact isNaN_round ..

theorem isNaN_unpacked_ofInt {spec : Format} (n : Int) :
    (UnpackedFloat.ofInt spec n).isNaN = false := by
  unfold UnpackedFloat.ofInt UnpackedFloat.normalize
  split
  · exact isNaN_round ..
  · rfl
  · exact isNaN_round ..

theorem isNaN_unpacked_ofScientific {spec : Format} (m : Nat) (e : Int) :
    (UnpackedFloat.ofScientific spec m e).isNaN = false := by
  unfold UnpackedFloat.ofScientific
  split_ifs
  · rfl
  · rfl
  · rfl
  · exact isNaN_mul rfl ⟨_, _, _, _, rfl⟩
  · exact isNaN_div rfl ⟨_, _, _, _, rfl⟩

/-! ## Decimals -/

theorem isOrdinary_powerOfTen :
    ∀ x ∈ Float.exactlyRepresentablePowersOfTen, IsOrdinary x.toModel.unpack := by
  decide

theorem isNaN_ofScientific (m : Nat) (s : Bool) (e : Nat) :
    (Float.ofScientific m s e).isNaN = false := by
  unfold Float.ofScientific
  split
  · -- A small mantissa and a small power of ten are multiplied or divided as doubles.
    next small =>
    have size : e < Float.exactlyRepresentablePowersOfTen.size := Nat.lt_succ_of_le small.2
    have power := isOrdinary_powerOfTen _ (Array.getElem_mem size)
    have whole : m.toUInt64.toFloat.isNaN = false := (isNaN_pack _).trans (isNaN_unpacked_ofInt _)
    dsimp only
    split
    · exact (isNaN_pack _).trans (isNaN_div whole power)
    · exact (isNaN_pack _).trans (isNaN_mul whole power)
  · exact (isNaN_pack _).trans (isNaN_unpacked_ofScientific ..)

theorem isNaN_neg (x : Float) : (-x).isNaN = x.isNaN := by
  change (Float.Model.pack x.toModel.unpack.neg).isNaN = x.toModel.unpack.isNaN
  rw [isNaN_pack]
  cases x.toModel.unpack <;> rfl

/-- **Every decimal is a number.** -/
theorem isNaN_ofDecimal (negative : Bool) (coefficient : Nat) (exponent : Int) :
    (ofDecimal negative coefficient exponent).isNaN = false := by
  have magnitude : ∀ size : Int, (if (coefficient == 0 || size < -400) = true then (0.0 : Float)
      else if 400 < size then 1.0 / 0.0
      else Float.ofScientific coefficient (exponent < 0) exponent.natAbs).isNaN = false := by
    intro size
    split_ifs
    · decide
    · decide
    · exact isNaN_ofScientific ..
  unfold ofDecimal
  dsimp only
  split
  · exact (isNaN_neg _).trans (magnitude _)
  · exact magnitude _

theorem isNaN_ofInt (n : Int) : (ofInt n).isNaN = false :=
  isNaN_ofDecimal ..

/-! ## Words -/

/-- The characters without a sign in front are the word for what is not a number, in any case. -/
def spellsNaN (cs : List Char) : Bool :=
  String.ofList ((signed cs).2.map Char.toLower) == "nan"

theorem isNaN_unsigned? {negative : Bool} {cs : List Char} {x : Float}
    (read : unsigned? negative cs = some x) : x.isNaN = false := by
  unfold unsigned? at read
  dsimp only at read
  split at read
  all_goals
    split at read
    · cases read
    · obtain ⟨e, -, rfl⟩ := Option.map_eq_some_iff.mp read
      exact isNaN_ofDecimal ..

/-- **Only one word is read as what is not a number.** -/
theorem isNaN_read? {cs : List Char} {x : Float} (read : read? cs = some x) :
    x.isNaN = spellsNaN cs := by
  unfold read? at read
  dsimp only at read
  rw [spellsNaN]
  generalize String.ofList ((signed cs).2.map Char.toLower) = word at read ⊢
  split at read
  · next infinite =>
    have word : (word == "nan") = false := by
      rcases Bool.or_eq_true_iff.mp infinite with eq | eq <;> rw [beq_iff_eq.mp eq] <;> rfl
    rw [word]
    cases read
    split <;> decide
  · split at read
    · next eq =>
      cases read
      rw [eq]
      decide
    · next other =>
      rw [isNaN_unsigned? read, Bool.eq_false_iff.mpr other]

theorem read?_of_spellsNaN {cs : List Char} (spells : spellsNaN cs = true) :
    ∃ x, read? cs = some x := by
  have word := beq_iff_eq.mp spells
  refine ⟨0.0 / 0.0, ?_⟩
  rw [read?]
  simp only [word]
  rfl

/-! ## Marks that stand in no number -/

theorem mem_signed {cs : List Char} {c : Char} (noSign : c ≠ '+' ∧ c ≠ '-') (mem : c ∈ cs) :
    c ∈ (signed cs).2 := by
  unfold signed
  split
  · exact (List.mem_cons.mp mem).resolve_left noSign.1
  · exact (List.mem_cons.mp mem).resolve_left noSign.2
  · exact mem

theorem mem_dropDigits {cs : List Char} {c : Char} (noDigit : c.isDigit = false) (mem : c ∈ cs) :
    c ∈ cs.dropWhile Char.isDigit := by
  rw [← List.takeWhile_append_dropWhile (p := Char.isDigit) (l := cs), List.mem_append] at mem
  refine mem.resolve_left fun digit => ?_
  rw [List.mem_takeWhile_imp digit] at noDigit
  cases noDigit

theorem colon_not_mem_of_exponent? {cs : List Char} {e : Int} (read : exponent? cs = some e) :
    ':' ∉ cs := by
  unfold exponent? at read
  split at read
  · exact List.not_mem_nil
  · next c cs =>
    split at read
    · next mark =>
      intro mem
      have behind : ':' ∈ cs := (List.mem_cons.mp mem).resolve_left (by rintro rfl; cases mark)
      dsimp only at read
      split at read
      · cases read
      · next digits =>
        have each := List.all_eq_true.mp (by simpa using digits : _ ∧ _).2
        exact absurd (each _ (mem_signed (by decide) behind)) (by decide)
    · cases read

theorem colon_not_mem_of_unsigned? {negative : Bool} {cs : List Char} {x : Float}
    (read : unsigned? negative cs = some x) : ':' ∉ cs := by
  intro mem
  have rest := mem_dropDigits (by decide) mem
  unfold unsigned? at read
  dsimp only at read
  split at read
  · next more point =>
    rw [point] at rest
    have places := mem_dropDigits (by decide) ((List.mem_cons.mp rest).resolve_left (by decide))
    split at read
    · cases read
    · obtain ⟨e, exponent, -⟩ := Option.map_eq_some_iff.mp read
      exact colon_not_mem_of_exponent? exponent places
  · split at read
    · cases read
    · obtain ⟨e, exponent, -⟩ := Option.map_eq_some_iff.mp read
      exact colon_not_mem_of_exponent? exponent rest

/-- **No number is written with a colon.** -/
theorem colon_not_mem_of_read? {cs : List Char} {x : Float} (read : read? cs = some x) :
    ':' ∉ cs := by
  intro mem
  have rest := mem_signed (by decide) mem
  have spelled : ':' ∈ (String.ofList ((signed cs).2.map Char.toLower)).toList := by
    rw [String.toList_ofList]
    exact List.mem_map.mpr ⟨':', rest, rfl⟩
  unfold read? at read
  dsimp only at read
  split at read
  · next word =>
    rcases Bool.or_eq_true_iff.mp word with eq | eq
    all_goals
      rw [beq_iff_eq.mp eq] at spelled
      exact absurd spelled (by decide)
  · split at read
    · next word =>
      rw [beq_iff_eq.mp word] at spelled
      exact absurd spelled (by decide)
    · exact colon_not_mem_of_unsigned? read rest

end Escalation.Number
