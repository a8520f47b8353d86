import Escalation.Cache.Fingerprint
import Escalation.Proofs.Value.Alike
import Mathlib.Algebra.Group.Nat.Defs
import Mathlib.Data.List.Basic

/-!
# The bytes of a fingerprint can be cancelled

What is written of a part of an evaluation determines the part and where its bytes end: when two
texts of bytes begin with two written parts and are equal, the parts are equal and so is what
follows (the lemmas `_append_inj`). So writing parts one after the other loses no boundary, and no
part needs a terminator.

The law rests on three things. Numbers take eight bytes. A text, a list and a map begin with their
length, and a length below `2 ^ 64` is written in full. A value and a part that may be missing
begin with a mark of what follows. The premise `Sized` says that every length in a value is below
`2 ^ 64`; beyond it two lengths may be written alike, and nothing is claimed.
-/

namespace Escalation

/-- A length that is written in full. -/
def Fits (n : Nat) : Prop := n < 2 ^ 64

mutual
/-- Every length in the value fits. -/
def Value.Sized : Value → Prop
  | .text s => Fits s.utf8ByteSize
  | .list items => Fits items.length ∧ SizedItems items
  | .object members => Fits members.length ∧ SizedMembers members
  | _ => True
termination_by structural value => value
/-- Every length in the items fits. -/
def SizedItems : List Value → Prop
  | [] => True
  | item :: items => item.Sized ∧ SizedItems items
termination_by structural items => items
/-- Every length in the members fits. -/
def SizedMembers : List (String × Value) → Prop
  | [] => True
  | (name, value) :: members => Fits name.utf8ByteSize ∧ value.Sized ∧ SizedMembers members
termination_by structural members => members
end

/-- Every length in the map fits. -/
def Attributes.Sized (a : Attributes) : Prop :=
  Fits a.entries.length ∧ SizedMembers a.entries

namespace Fingerprint

variable {s t : Bytes}

/-! ## Numbers and texts -/

/-- The eight bytes of a number are its digits in base 256, so they determine it. -/
theorem word_inj {m n : UInt64} (h : word m = word n) : m = n := by
  simp only [word, Sha256.bytes64, List.map_cons, List.map_nil, List.cons.injEq,
    ← UInt8.toNat_inj] at h
  obtain ⟨h7, h6, h5, h4, h3, h2, h1, h0, -⟩ := h
  simp [Nat.shiftRight_eq_div_pow] at h0 h1 h2 h3 h4 h5 h6 h7
  have hm := m.toNat_lt
  have hn := n.toNat_lt
  apply UInt64.toNat_inj.mp
  omega

theorem word_append_inj {m n : UInt64} (h : word m ++ s = word n ++ t) : m = n ∧ s = t := by
  obtain ⟨hw, hst⟩ := List.append_inj h rfl
  exact ⟨word_inj hw, hst⟩

theorem length_append_inj {m n : Nat} (hm : Fits m) (hn : Fits n)
    (h : length m ++ s = length n ++ t) : m = n ∧ s = t := by
  obtain ⟨hw, hst⟩ := word_append_inj h
  have eq := congrArg UInt64.toNat hw
  unfold Fits at hm hn
  simp only [Nat.toUInt64_eq, UInt64.toNat_ofNat'] at eq
  exact ⟨by omega, hst⟩

theorem flag_append_inj {a b : Bool} (h : flag a ++ s = flag b ++ t) : a = b ∧ s = t := by
  cases a <;> cases b <;> simp_all [flag]

/-- The bytes of a byte array, as its definition by an index collects them. -/
theorem toList_loop (bytes : ByteArray) (i : Nat) (r : List UInt8) :
    ByteArray.toList.loop bytes i r = r.reverse ++ bytes.data.toList.drop i := by
  fun_induction ByteArray.toList.loop bytes i r with
  | case1 i r h ih =>
    have hi : i < bytes.data.toList.length := h
    have get : bytes.get! i = bytes.data.toList[i] := getElem!_pos bytes.data i h
    rw [ih, List.drop_eq_getElem_cons hi, List.reverse_cons, get, List.append_assoc]
    rfl
  | case2 i r h =>
    have hi : bytes.data.toList.length ≤ i := Nat.le_of_not_lt h
    rw [List.drop_of_length_le hi, List.append_nil]

theorem raw_eq (text : String) : raw text = text.toByteArray.data.toList :=
  toList_loop text.toByteArray 0 []

theorem raw_length (text : String) : (raw text).length = text.utf8ByteSize := by
  rw [raw_eq]
  rfl

theorem raw_inj {a b : String} (h : raw a = raw b) : a = b := by
  rw [raw_eq, raw_eq] at h
  exact String.toByteArray_inj.mp (ByteArray.ext (Array.toList_inj.mp h))

/-- A text is cut off by its length. -/
theorem text_append_inj {a b : String} (ha : Fits a.utf8ByteSize) (hb : Fits b.utf8ByteSize)
    (h : text a ++ s = text b ++ t) : a = b ∧ s = t := by
  simp only [text, List.append_assoc] at h
  obtain ⟨size, rest⟩ := length_append_inj ha hb h
  obtain ⟨hraw, hst⟩ := List.append_inj rest (by rw [raw_length, raw_length, size])
  exact ⟨raw_inj hraw, hst⟩

/-- A text that may be missing: its mark tells whether it is. -/
theorem text?_append_inj {a b : Option String} (ha : ∀ x ∈ a, Fits x.utf8ByteSize)
    (hb : ∀ x ∈ b, Fits x.utf8ByteSize) (h : text? a ++ s = text? b ++ t) : a = b ∧ s = t := by
  cases a with
  | none =>
    cases b with
    | none => exact ⟨rfl, (List.cons.inj h).2⟩
    | some y => cases (List.cons.inj h).1
  | some x =>
    cases b with
    | none => cases (List.cons.inj h).1
    | some y =>
      obtain ⟨eq, hst⟩ := text_append_inj (ha x rfl) (hb y rfl) (List.cons.inj h).2
      exact ⟨congrArg some eq, hst⟩

/-! ## Values -/

mutual
/-- **What is written of a value can be cancelled.** The induction is on the first value; the marks
leave the second no other kind. -/
theorem value_append_inj : (v w : Value) → v.Sized → w.Sized → ∀ {s t : Bytes},
    value v ++ s = value w ++ t → v = w ∧ s = t
  | .null, w, _, _, s, t, h => by
    cases w with
    | null => exact ⟨rfl, (List.cons.inj h).2⟩
    | _ => cases (List.cons.inj h).1
  | .bool b, w, _, _, s, t, h => by
    cases w with
    | bool c =>
      obtain ⟨eq, hst⟩ := flag_append_inj (List.cons.inj h).2
      exact ⟨congrArg Value.bool eq, hst⟩
    | _ => cases (List.cons.inj h).1
  | .number x, w, _, _, s, t, h => by
    cases w with
    | number y =>
      obtain ⟨eq, hst⟩ := word_append_inj (List.cons.inj h).2
      exact ⟨congrArg Value.number (eq_of_toBits eq), hst⟩
    | _ => cases (List.cons.inj h).1
  | .text a, w, hv, hw, s, t, h => by
    cases w with
    | text b =>
      obtain ⟨eq, hst⟩ := text_append_inj hv hw (List.cons.inj h).2
      exact ⟨congrArg Value.text eq, hst⟩
    | _ => cases (List.cons.inj h).1
  | .list items, w, ⟨fits, sized⟩, hw, s, t, h => by
    cases w with
    | list others =>
      simp only [value, List.cons_append, List.append_assoc, List.cons.injEq, true_and] at h
      obtain ⟨size, rest⟩ := length_append_inj fits hw.1 h
      obtain ⟨eq, hst⟩ := values_append_inj items others size sized hw.2 rest
      exact ⟨congrArg Value.list eq, hst⟩
    | _ => cases (List.cons.inj h).1
  | .object members, w, ⟨fits, sized⟩, hw, s, t, h => by
    cases w with
    | object others =>
      simp only [value, List.cons_append, List.append_assoc, List.cons.injEq, true_and] at h
      obtain ⟨size, rest⟩ := length_append_inj fits hw.1 h
      obtain ⟨eq, hst⟩ := entries_append_inj members others size sized hw.2 rest
      exact ⟨congrArg Value.object eq, hst⟩
    | _ => cases (List.cons.inj h).1
termination_by structural v => v
/-- As many values one after the other. -/
theorem values_append_inj : (vs ws : List Value) → vs.length = ws.length → SizedItems vs →
    SizedItems ws → ∀ {s t : Bytes}, values vs ++ s = values ws ++ t → vs = ws ∧ s = t
  | [], [], _, _, _, _, _, h => ⟨rfl, h⟩
  | v :: vs, w :: ws, size, ⟨hv, hvs⟩, ⟨hw, hws⟩, _, _, h => by
    simp only [values, List.append_assoc] at h
    obtain ⟨rfl, rest⟩ := value_append_inj v w hv hw h
    obtain ⟨rfl, hst⟩ := values_append_inj vs ws (Nat.succ.inj size) hvs hws rest
    exact ⟨rfl, hst⟩
termination_by structural vs => vs
/-- As many names with their values one after the other. -/
theorem entries_append_inj : (es fs : List (String × Value)) → es.length = fs.length →
    SizedMembers es → SizedMembers fs → ∀ {s t : Bytes},
    entries es ++ s = entries fs ++ t → es = fs ∧ s = t
  | [], [], _, _, _, _, _, h => ⟨rfl, h⟩
  | (m, v) :: es, (n, w) :: fs, size, ⟨hm, hv, hes⟩, ⟨hn, hw, hfs⟩, _, _, h => by
    simp only [entries, List.append_assoc] at h
    obtain ⟨rfl, afterName⟩ := text_append_inj hm hn h
    obtain ⟨rfl, afterValue⟩ := value_append_inj v w hv hw afterName
    obtain ⟨rfl, hst⟩ := entries_append_inj es fs (Nat.succ.inj size) hes hfs afterValue
    exact ⟨rfl, hst⟩
termination_by structural es => es
end

/-- A map is cut off by the number of its entries. -/
theorem attributes_append_inj {a b : Attributes} (ha : a.Sized) (hb : b.Sized)
    (h : attributes a ++ s = attributes b ++ t) : a = b ∧ s = t := by
  simp only [attributes, List.append_assoc] at h
  obtain ⟨size, rest⟩ := length_append_inj ha.1 hb.1 h
  obtain ⟨eq, hst⟩ := entries_append_inj _ _ size ha.2 hb.2 rest
  exact ⟨Attributes.ext eq, hst⟩

end Fingerprint

end Escalation
