import Escalation.Proofs.Json.Token

/-!
# Documents are read back from their texts

A document is read back from its text if it is nested no deeper than the reader goes, and every
number in it is read back (`Legible`, `read?_render`). Nothing is asked of texts and of names. What
JSON has no form for is written as null, and so is not among them.

The reader is given fuel, one more than twice as much as there are characters: an item takes one call
more than its own text does, and that is paid for by the bracket or the comma before it. The law is
proved by induction on the document, of values, items and members at once, whatever follows them.
-/

namespace Escalation.Json

variable {depth fuel : Nat} {json : Json} {rest : List Char}

/-- **A document that is read back from its text**: nested at most so deep, with numbers that are
read back. -/
inductive Legible : Nat → Json → Prop
  | null {depth : Nat} : Legible depth .null
  | bool {depth : Nat} (b : Bool) : Legible depth (.bool b)
  | number {depth : Nat} {n : Number} (readBack : n.ReadBack) : Legible depth (.number n)
  | text {depth : Nat} (s : String) : Legible depth (.text s)
  | list {depth : Nat} {items : List Json} (each : ∀ item ∈ items, Legible depth item) :
    Legible (depth + 1) (.list items)
  | object {depth : Nat} {members : List (String × Json)}
    (each : ∀ m ∈ members, Legible depth m.2) : Legible (depth + 1) (.object members)

section Legible

@[simp] theorem legible_null : Legible depth .null :=
  .null

@[simp] theorem legible_bool (b : Bool) : Legible depth (.bool b) :=
  .bool b

@[simp] theorem legible_text (s : String) : Legible depth (.text s) :=
  .text s

@[simp] theorem legible_number {n : Number} : Legible depth (.number n) ↔ n.ReadBack :=
  ⟨fun | .number readBack => readBack, .number⟩

@[simp] theorem legible_list {items : List Json} :
    Legible (depth + 1) (.list items) ↔ ∀ item ∈ items, Legible depth item :=
  ⟨fun | .list each => each, .list⟩

@[simp] theorem legible_object {members : List (String × Json)} :
    Legible (depth + 1) (.object members) ↔ ∀ m ∈ members, Legible depth m.2 :=
  ⟨fun | .object each => each, .object⟩

end Legible

/-! ## The characters of a text -/

mutual
/-- The characters of a text of a document. -/
def chars : Json → List Char
  | .list items => '[' :: (itemChars items ++ [']'])
  | .object members => '\x7b' :: (memberChars members ++ ['\x7d'])
  | json => json.render.toList
termination_by structural json => json
def itemChars : List Json → List Char
  | [] => []
  | item :: items => item.chars ++ ((if items.isEmpty then [] else [',']) ++ itemChars items)
termination_by structural items => items
def memberChars : List (String × Json) → List Char
  | [] => []
  | (name, value) :: members =>
    (quoted name).toList ++
      ':' :: (value.chars ++ ((if members.isEmpty then [] else [',']) ++ memberChars members))
termination_by structural members => members
end

mutual
theorem toList_render : (json : Json) → json.render.toList = json.chars
  | .list items => by
    rw [render, chars, String.toList_append, String.toList_append, toList_renderItems items]
    simp
  | .object members => by
    rw [render, chars, String.toList_append, String.toList_append, toList_renderMembers members]
    simp
  | .null | .bool _ | .number _ | .text _ | .foreign => rfl
theorem toList_renderItems : (items : List Json) → (renderItems items).toList = itemChars items
  | [] => rfl
  | item :: items => by
    rw [renderItems, itemChars, String.toList_append, String.toList_append, toList_render item,
      toList_renderItems items]
    cases items <;> simp
theorem toList_renderMembers :
    (members : List (String × Json)) → (renderMembers members).toList = memberChars members
  | [] => rfl
  | (name, value) :: members => by
    rw [renderMembers, memberChars, String.toList_append, String.toList_append,
      String.toList_append, String.toList_append, toList_render value,
      toList_renderMembers members]
    cases members <;> simp
end

/-! ## How texts begin -/

/-- A character that a value may begin with: no blank, and no bracket that closes. -/
def Opens (c : Char) : Prop :=
  isSpace c = false ∧ c ≠ ']' ∧ c ≠ '\x7d'

instance (c : Char) : Decidable (Opens c) :=
  inferInstanceAs (Decidable (_ ∧ _))

theorem ne_of_isDigit {c d : Char} (digit : c.isDigit = true) (mark : d.isDigit = false) :
    c ≠ d := by
  rintro rfl
  exact Bool.false_ne_true (mark.symm.trans digit)

theorem opens_of_isDigit {c : Char} (digit : c.isDigit = true) : Opens c := by
  have other {d : Char} (mark : d.isDigit = false) : c ≠ d := ne_of_isDigit digit mark
  have space : isSpace c = false := by
    simp [isSpace, other (d := ' ') rfl, other (d := '\n') rfl, other (d := '\r') rfl,
      other (d := '\t') rfl]
  exact ⟨space, other rfl, other rfl⟩

theorem skipSpace_of_opens {c : Char} (opens : Opens c) (cs : List Char) :
    skipSpace (c :: cs) = c :: cs :=
  List.dropWhile_cons_of_neg (by rw [opens.1]; exact Bool.false_ne_true)

theorem Number.ReadBack.opens {n : Number} (readBack : n.ReadBack) :
    ∃ c cs, n.render.toList = c :: cs ∧ Opens c := by
  rcases readBack with ⟨cs, eq, -⟩ | read
  · exact ⟨'-', cs, eq, by decide⟩
  · obtain ⟨d, ds, eq, digit⟩ := exists_digit_of_number? read
    exact ⟨d, ds, eq, opens_of_isDigit digit⟩

theorem Legible.opens (legible : json.Legible depth) : ∃ c cs, json.chars = c :: cs ∧ Opens c := by
  cases legible with
  | null => exact ⟨'n', _, rfl, by decide⟩
  | bool b =>
    cases b
    · exact ⟨'f', _, rfl, by decide⟩
    · exact ⟨'t', _, rfl, by decide⟩
  | number readBack => exact readBack.opens
  | text s =>
    obtain ⟨cs, eq, -⟩ := string?_quoted s
    exact ⟨'"', cs, eq, by decide⟩
  | list => exact ⟨'[', _, rfl, by decide⟩
  | object => exact ⟨'\x7b', _, rfl, by decide⟩

/-! ## Numbers and texts as values -/

theorem value?_number {n : Number} (readBack : n.ReadBack) (follows : Follows rest) :
    value? (fuel + 1) depth (n.render.toList ++ rest) = some (.number n, rest) := by
  rcases readBack with ⟨cs, eq, read⟩ | read
  · have minus : value? (fuel + 1) depth ('-' :: (cs ++ rest)) =
        (number? true (cs ++ rest)).map fun read => (.number read.1, read.2) := rfl
    rw [eq, List.cons_append, minus, number?_append follows, read]
    rfl
  · obtain ⟨d, ds, eq, digit⟩ := exists_digit_of_number? read
    have plain : value? (fuel + 1) depth (d :: (ds ++ rest)) =
        (number? false (d :: (ds ++ rest))).map fun read => (.number read.1, read.2) := by
      simp only [value?, skipSpace_of_opens (opens_of_isDigit digit)]
      split
      · next eq => cases eq
      all_goals first
        | rfl
        | next eq => exact absurd (List.cons.inj eq).1 (ne_of_isDigit digit rfl)
    rw [eq] at read ⊢
    rw [List.cons_append, plain, ← List.cons_append, number?_append follows, read]
    rfl

theorem value?_text (s : String) (rest : List Char) :
    value? (fuel + 1) depth ((quoted s).toList ++ rest) = some (.text s, rest) := by
  obtain ⟨cs, eq, read⟩ := string?_quoted s
  have quote : value? (fuel + 1) depth ('"' :: (cs ++ rest)) =
      (string? (cs ++ rest)).map fun read => (.text read.1, read.2) := rfl
  rw [eq, List.cons_append, quote, read]
  rfl

/-! ## Lists and objects -/

/-- What is read of a list that is not empty. -/
theorem value?_list {c : Char} (opens : Opens c) (cs : List Char) :
    value? (fuel + 1) (depth + 1) ('[' :: c :: cs) =
      (valueItems? fuel depth [] (c :: cs)).map fun (items, rest) => (.list items, rest) := by
  have bracket : skipSpace ('[' :: c :: cs) = '[' :: c :: cs := skipSpace_of_opens (by decide) _
  have deep : (depth + 1 == 0) = false := rfl
  simp only [value?, bracket, skipSpace_of_opens opens, deep, Bool.false_eq_true, if_false]
  split
  · next eq => exact absurd (List.cons.inj eq).1 opens.2.1
  · rfl

/-- What is read of an object that is not empty. -/
theorem value?_object {c : Char} (opens : Opens c) (cs : List Char) :
    value? (fuel + 1) (depth + 1) ('\x7b' :: c :: cs) =
      (valueMembers? fuel depth [] (c :: cs)).map fun (members, rest) => (.object members, rest) := by
  have brace : skipSpace ('\x7b' :: c :: cs) = '\x7b' :: c :: cs := skipSpace_of_opens (by decide) _
  have deep : (depth + 1 == 0) = false := rfl
  simp only [value?, brace, skipSpace_of_opens opens, deep, Bool.false_eq_true, if_false]
  split
  · next eq => exact absurd (List.cons.inj eq).1 opens.2.2
  · rfl

/-- A value is read off the front of what is left of a document. -/
def ReadOff (depth : Nat) (json : Json) : Prop :=
  ∀ fuel rest, 2 * json.chars.length < fuel → Follows rest →
    value? fuel depth (json.chars ++ rest) = some (json, rest)

/-- Whatever the value is, the first call takes one off the fuel. -/
theorem readOff_of_succ (read : ∀ fuel rest, 2 * json.chars.length ≤ fuel → Follows rest →
    value? (fuel + 1) depth (json.chars ++ rest) = some (json, rest)) : ReadOff depth json := by
  intro fuel rest enough follows
  obtain ⟨fuel, rfl⟩ := Nat.exists_eq_add_one_of_ne_zero (Nat.ne_zero_of_lt enough)
  exact read fuel rest (Nat.le_of_lt_succ enough) follows

/-- **Items are read off one by one**, up to the bracket. -/
theorem valueItems?_itemChars {item : Json} {items : List Json}
    (each : ∀ i ∈ item :: items, ReadOff depth i) (before : List Json) (rest : List Char)
    (enough : 2 * (itemChars (item :: items)).length + 1 < fuel) :
    valueItems? fuel depth before (itemChars (item :: items) ++ ']' :: rest) =
      some (before.reverse ++ item :: items, rest) := by
  obtain ⟨fuel, rfl⟩ := Nat.exists_eq_add_one_of_ne_zero (Nat.ne_zero_of_lt enough)
  induction items generalizing item fuel before with
  | nil =>
    have text : itemChars [item] = item.chars := List.append_nil _
    rw [text] at enough ⊢
    have read := each item List.mem_cons_self fuel (']' :: rest) (Nat.lt_of_succ_lt_succ enough)
      (follows_cons (.inr (.inl rfl)) rest)
    have bracket : skipSpace (']' :: rest) = ']' :: rest := rfl
    simp only [valueItems?, read, bracket, Option.bind_eq_bind, Option.bind_some,
      List.reverse_cons]
  | cons next items ih =>
    obtain ⟨first, others⟩ := List.forall_mem_cons.mp each
    have text : itemChars (item :: next :: items) =
        item.chars ++ ',' :: itemChars (next :: items) := rfl
    rw [text, List.length_append, List.length_cons] at enough
    obtain ⟨fuel, rfl⟩ := Nat.exists_eq_add_one_of_ne_zero (by omega : fuel ≠ 0)
    have read := first (fuel + 1) (',' :: (itemChars (next :: items) ++ ']' :: rest)) (by omega)
      (follows_cons (.inl rfl) _)
    have comma (cs : List Char) : skipSpace (',' :: cs) = ',' :: cs := rfl
    have more := ih others (item :: before) fuel (by omega)
    rw [text, List.append_assoc, List.cons_append, valueItems?]
    simp only [read, comma, more, Option.bind_eq_bind, Option.bind_some, List.reverse_cons,
      List.append_assoc, List.singleton_append]

/-- **Members are read off one by one**, up to the brace. -/
theorem valueMembers?_memberChars {member : String × Json} {members : List (String × Json)}
    (each : ∀ m ∈ member :: members, ReadOff depth m.2) (before : List (String × Json))
    (rest : List Char) (enough : 2 * (memberChars (member :: members)).length + 1 < fuel) :
    valueMembers? fuel depth before (memberChars (member :: members) ++ '\x7d' :: rest) =
      some (before.reverse ++ member :: members, rest) := by
  have quote (cs : List Char) : skipSpace ('"' :: cs) = '"' :: cs := rfl
  have colon (cs : List Char) : skipSpace (':' :: cs) = ':' :: cs := rfl
  obtain ⟨fuel, rfl⟩ := Nat.exists_eq_add_one_of_ne_zero (Nat.ne_zero_of_lt enough)
  induction members generalizing member fuel before with
  | nil =>
    obtain ⟨name, value⟩ := member
    obtain ⟨cs, quoted_eq, named⟩ := string?_quoted name
    have text : memberChars [(name, value)] = '"' :: (cs ++ ':' :: value.chars) := by
      rw [memberChars, quoted_eq]
      simp [memberChars]
    rw [text, List.length_cons, List.length_append, List.length_cons] at enough
    have read := each (name, value) List.mem_cons_self fuel ('\x7d' :: rest)
      (by simp only; omega) (follows_cons (.inr (.inr rfl)) rest)
    have brace : skipSpace ('\x7d' :: rest) = '\x7d' :: rest := rfl
    rw [text, List.cons_append, List.append_assoc, List.cons_append]
    simp only [valueMembers?, quote, named, colon, read, brace, Option.bind_eq_bind,
      Option.bind_some, List.reverse_cons]
  | cons next members ih =>
    obtain ⟨first, others⟩ := List.forall_mem_cons.mp each
    obtain ⟨name, value⟩ := member
    obtain ⟨cs, quoted_eq, named⟩ := string?_quoted name
    have text : memberChars ((name, value) :: next :: members) =
        '"' :: (cs ++ ':' :: (value.chars ++ ',' :: memberChars (next :: members))) := by
      rw [memberChars, quoted_eq]
      rfl
    simp only [text, List.length_cons, List.length_append] at enough
    obtain ⟨fuel, rfl⟩ := Nat.exists_eq_add_one_of_ne_zero (by omega : fuel ≠ 0)
    have read := first (fuel + 1) (',' :: (memberChars (next :: members) ++ '\x7d' :: rest))
      (by simp only; omega) (follows_cons (.inl rfl) _)
    have comma (cs : List Char) : skipSpace (',' :: cs) = ',' :: cs := rfl
    have more := ih others ((name, value) :: before) fuel (by omega)
    simp only [text, List.cons_append, List.append_assoc]
    rw [valueMembers?]
    simp only [quote, named, colon, read, comma, more, Option.bind_eq_bind, Option.bind_some,
      List.reverse_cons, List.append_assoc, List.singleton_append]

theorem word?_append (word rest : List Char) (json : Json) :
    word? word json (word ++ rest) = some (json, rest) := by
  rw [word?, if_pos (List.isPrefixOf_iff_prefix.mpr (List.prefix_append word rest)),
    List.drop_left]

/-- **A legible value is read off**, whatever follows. -/
theorem Legible.readOff (legible : json.Legible depth) : ReadOff depth json := by
  induction legible with
  | null =>
    refine readOff_of_succ fun fuel rest enough follows => ?_
    exact word?_append "ull".toList rest .null
  | bool b =>
    refine readOff_of_succ fun fuel rest enough follows => ?_
    cases b
    · exact word?_append "alse".toList rest (.bool false)
    · exact word?_append "rue".toList rest (.bool true)
  | number readBack =>
    refine readOff_of_succ fun fuel rest enough follows => ?_
    exact value?_number readBack follows
  | text s =>
    refine readOff_of_succ fun fuel rest enough follows => ?_
    exact value?_text s rest
  | @list depth items each ih =>
    refine readOff_of_succ fun fuel rest enough follows => ?_
    rw [chars, List.length_cons, List.length_append, List.length_singleton] at enough
    rw [chars, List.cons_append, List.append_assoc, List.singleton_append]
    cases items with
    | nil => rfl
    | cons item items =>
      obtain ⟨c, cs, eq, opens⟩ := (each item List.mem_cons_self).opens
      have read := @valueItems?_itemChars depth fuel item items ih [] rest (by omega)
      rw [itemChars, eq, List.cons_append, List.cons_append] at read ⊢
      rw [value?_list opens, read]
      rfl
  | @object depth members each ih =>
    refine readOff_of_succ fun fuel rest enough follows => ?_
    rw [chars, List.length_cons, List.length_append, List.length_singleton] at enough
    rw [chars, List.cons_append, List.append_assoc, List.singleton_append]
    cases members with
    | nil => rfl
    | cons member members =>
      obtain ⟨cs, eq, -⟩ := string?_quoted member.1
      have read := @valueMembers?_memberChars depth fuel member members ih [] rest (by omega)
      rw [memberChars, eq, List.cons_append, List.cons_append] at read ⊢
      rw [value?_object (by decide), read]
      rfl

/-- What is read of the text of a document is read of its characters. -/
theorem read?_render_eq (json : Json) : read? json.render = readChars? json.chars :=
  congrArg readChars? (toList_render json)

/-- **A legible document is read back from its text.** -/
theorem read?_render (legible : json.Legible deepest) : read? json.render = some json := by
  have read := legible.readOff (2 * json.chars.length + 2) [] (by omega) follows_nil
  rw [List.append_nil] at read
  simp only [read?_render_eq, readChars?, read, skipSpace, List.dropWhile_nil, List.isEmpty_nil,
    if_true]

end Escalation.Json
