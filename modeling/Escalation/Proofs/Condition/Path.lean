import Escalation.Proofs.Condition.Reads
import Escalation.Proofs.Condition.Subject
import Escalation.Proofs.Text.Search

/-!
# Names with dots in them

A condition on attributes names an entry, or by a name with dots in it an entry of an object further
down. What stands at the end of a path of names is said here without the lookup: step by step, through
objects (`Keyed.Reaches`), and if nothing stands there it is because a name is missing or because what
is met on the way is not an object (`Keyed.Misses`). An entry under the whole name, dots and all, goes
before the path (`Attributes.Holds`).

Joining names by dots loses nothing as long as no name has a dot of its own, so the lookup, which
splits the name again, walks the path that was meant (`Attributes.lookup_path`). It looks at two
entries of the attributes, that of the whole name and that of the first name, and at nothing else of
the scope: neither other entries nor other attributes nor the clock (`Condition.path_read`).

Names that are empty count as names. A path may hold them, also at its ends, and a trigger condition
must only keep off the names of the decision's own fields.
-/

namespace Escalation

/-! ## Paths through objects -/

namespace Keyed

/-- **A value stands at the end of a path of names**, each but the last of an object. -/
inductive Reaches : List (String × Value) → List String → Value → Prop
  | here {members : List (String × Value)} {name : String} {value : Value}
    (own : find? name members = some value) : Reaches members [name] value
  | through {members inner : List (String × Value)} {name : String} {path : List String}
    {value : Value} (own : find? name members = some (.object inner))
    (onward : Reaches inner path value) : Reaches members (name :: path) value

/-- **A path of names leads to nothing.** -/
inductive Misses : List (String × Value) → List String → Prop
  /-- A name is missing. -/
  | absent {members : List (String × Value)} {name : String} {path : List String}
    (none : find? name members = none) : Misses members (name :: path)
  /-- What is met on the way is not an object. -/
  | blocked {members : List (String × Value)} {name : String} {path : List String} {value : Value}
    (own : find? name members = some value) (solid : value.kind ≠ .object) (further : path ≠ []) :
    Misses members (name :: path)
  | through {members inner : List (String × Value)} {name : String} {path : List String}
    (own : find? name members = some (.object inner)) (onward : Misses inner path) :
    Misses members (name :: path)

variable {members : List (String × Value)} {name : String} {path : List String} {found : Value}

theorem reaches_iff : Reaches members (name :: path) found ↔
    (find? name members).bind (·.descend path) = some found := by
  induction path generalizing members name with
  | nil =>
    rw [Option.bind_eq_some_iff]
    constructor
    · intro reached
      cases reached with
      | here own => exact ⟨found, own, rfl⟩
      | through own onward => cases onward
    · rintro ⟨value, own, same⟩
      cases same
      exact .here own
  | cons next path ih =>
    rw [Option.bind_eq_some_iff]
    constructor
    · intro reached
      cases reached with
      | through own onward => exact ⟨_, own, ih.mp onward⟩
    · rintro ⟨value, own, onward⟩
      cases value with
      | object inner => exact .through own (ih.mpr onward)
      | null | bool b | number x | text s | list items => cases onward

theorem misses_iff : Misses members (name :: path) ↔
    (find? name members).bind (·.descend path) = none := by
  induction path generalizing members name with
  | nil =>
    constructor
    · intro missed
      cases missed with
      | absent none => rw [none]; rfl
      | blocked own solid further => exact absurd rfl further
      | through own onward => cases onward
    · intro missed
      cases own : find? name members with
      | none => exact .absent own
      | some value => rw [own] at missed; cases missed
  | cons next path ih =>
    constructor
    · intro missed
      cases missed with
      | absent none => rw [none]; rfl
      | @blocked _ _ _ value own solid further =>
        rw [own]
        cases value with
        | object inner => exact absurd rfl solid
        | null | bool b | number x | text s | list items => rfl
      | through own onward =>
        rw [own]
        exact ih.mp onward
    · intro missed
      cases own : find? name members with
      | none => exact .absent own
      | some value =>
        rw [own] at missed
        cases value with
        | object inner => exact .through own (ih.mpr missed)
        | null | bool b | number x | text s | list items =>
          exact .blocked own (by simp only [Value.kind, ne_eq, reduceCtorEq, not_false_eq_true])
            (List.cons_ne_nil _ _)

end Keyed

/-! ## Attributes -/

/-- The name that is made of the names of a path, with dots between them. -/
def dotted (path : List String) : String :=
  ".".intercalate path

variable {first : String} {rest : List String}

/-- **The names of a path are found again between the dots**, if none has a dot in it. -/
theorem pathOf_dotted (dotless : ∀ name ∈ first :: rest, '.' ∉ name.toList) :
    pathOf (dotted (first :: rest)) = first :: rest := by
  have pieces : ∀ piece ∈ (first :: rest).map String.toList, '.' ∉ piece := by
    intro piece mem
    obtain ⟨name, own, rfl⟩ := List.mem_map.mp mem
    exact dotless name own
  have chars : (dotted (first :: rest)).toList = ['.'].intercalate ((first :: rest).map String.toList) :=
    String.toList_intercalate
  rw [pathOf, chars, Text.piecesBetween_intercalate (by simp) pieces, List.map_map]
  simp

namespace Attributes

variable {a b : Attributes} {value : Value}

/-- **The attributes hold a value under a path**: as an entry under the whole name, or at its end. -/
def Holds (a : Attributes) (path : List String) (value : Value) : Prop :=
  a.find? (dotted path) = some value ∨
    a.find? (dotted path) = none ∧ Keyed.Reaches a.entries path value

/-- The attributes have nothing under the whole name or at the end of the path. -/
def Lacks (a : Attributes) (path : List String) : Prop :=
  a.find? (dotted path) = none ∧ Keyed.Misses a.entries path

/-- The lookup of a name with dots in it looks at two entries, and goes on from the second. -/
theorem lookup_dotted (dotless : ∀ name ∈ first :: rest, '.' ∉ name.toList) (a : Attributes) :
    a.lookup (dotted (first :: rest)) =
      (a.find? (dotted (first :: rest))).or ((a.find? first).bind (·.descend rest)) := by
  unfold lookup
  rw [pathOf_dotted dotless]
  cases a.find? (dotted (first :: rest)) <;> rfl

theorem lookup_path (dotless : ∀ name ∈ first :: rest, '.' ∉ name.toList) :
    a.lookup (dotted (first :: rest)) = some value ↔ a.Holds (first :: rest) value := by
  rw [lookup_dotted dotless, Option.or_eq_some_iff, Holds, Keyed.reaches_iff]
  rfl

theorem lookup_path_none (dotless : ∀ name ∈ first :: rest, '.' ∉ name.toList) :
    a.lookup (dotted (first :: rest)) = none ↔ a.Lacks (first :: rest) := by
  rw [lookup_dotted dotless, Option.or_eq_none_iff, Lacks, Keyed.misses_iff]
  rfl

end Attributes

/-! ## Conditions on attributes -/

/-- The attributes that conditions of a kind read: those of one part of the scope. Messages and the
clock have none. -/
def ConditionKind.attributes? : ConditionKind → Option (Scope → Attributes)
  | .userAttribute => some (·.context.userAttributes)
  | .contextField => some (·.context.metadata)
  | .entity => some (·.context.entities)
  | .metadata => some (·.metadata)
  | .triggerResult => some (·.decision.triggerResults)
  | .messageContent | .timeBased => none

/-- The names that mean a field of the decision, and no trigger result. -/
def TriggerField.reserved : List String :=
  ["should_handoff", "confidence", "priority", "reason", "trigger_type", "trigger"]

theorem TriggerField.ofName_of_unreserved {name : String} (solid : Text.trim name = name)
    (unreserved : name ∉ reserved) : ofName name = .named name := by
  simp only [reserved, List.mem_cons, List.not_mem_nil, or_false, not_or] at unreserved
  unfold ofName
  rw [solid]
  split <;> simp_all

/-- What is looked up is seen unless it is null. -/
theorem Value.bind_present?_eq_some {found : Option Value} {value : Value} :
    found.bind Value.present? = some value ↔ value ≠ .null ∧ found = some value := by
  cases found with
  | none => simp
  | some own => cases own <;> cases value <;> simp [Value.present?]

theorem Value.bind_present?_eq_none {found : Option Value} :
    found.bind Value.present? = none ↔ found = none ∨ found = some .null := by
  cases found with
  | none => simp
  | some own => cases own <;> simp [Value.present?]

namespace Condition

open Value (bind_present?_eq_some bind_present?_eq_none)

variable {c : Condition} {attributes : Scope → Attributes} {scope other : Scope}

/-- **What a condition needs to mean a path**: it is on attributes, and its name is that of the path,
without blanks around it. -/
structure Names (c : Condition) (attributes : Scope → Attributes) (first : String)
    (rest : List String) : Prop where
  kind : c.kind.attributes? = some attributes
  field : c.field = dotted (first :: rest)
  dotless : ∀ name ∈ first :: rest, '.' ∉ name.toList
  nonblank : c.field ≠ ""
  solid : Text.trim c.field = c.field
  unreserved : c.kind = .triggerResult → c.field ∉ TriggerField.reserved

theorem Names.offClock (names : c.Names attributes first rest) : c.kind ≠ .timeBased := by
  intro onClock
  have none := names.kind
  rw [onClock] at none
  cases none

/-- A condition on attributes reads the attributes under its name, but for a null. -/
theorem Names.resolve (names : c.Names attributes first rest) : ∃ field, c.resolve = .ok field ∧
    ∀ scope, field.lookup scope =
      ((attributes scope).lookup (dotted (first :: rest))).bind Value.present? := by
  obtain ⟨mapped, field, -, nonblank, solid, unreserved⟩ := names
  rw [← field]
  unfold Condition.resolve Field.resolve
  rw [solid]
  cases kind : c.kind with
  | messageContent | timeBased =>
    rw [kind] at mapped
    cases mapped
  | userAttribute | contextField | entity | metadata =>
    rw [kind] at mapped
    cases mapped
    simp only [reduceCtorEq, if_false, nonblank]
    exact ⟨_, rfl, fun _ => rfl⟩
  | triggerResult =>
    rw [kind] at mapped
    cases mapped
    simp only [reduceCtorEq, if_false, nonblank,
      TriggerField.ofName_of_unreserved solid (unreserved kind)]
    exact ⟨_, rfl, fun _ => rfl⟩

/-- **What a condition sees of a path**, and what it says if it sees nothing. -/
structure ReadsPath (c : Condition) (scope : Scope) (a : Attributes) (path : List String) : Prop where
  /-- It sees the value that is held under the path, and a null is no value. -/
  sees : ∀ value, (c.evaluate scope).actual = some value ↔ value ≠ .null ∧ a.Holds path value
  /-- It sees nothing if nothing is there, or a null. -/
  blind : (c.evaluate scope).actual = none ↔ a.Lacks path ∨ a.Holds path .null
  /-- Existence is whether it sees something. -/
  existence : c.operator = .exists →
    (c.evaluate scope).verdict = .ok ((c.evaluate scope).actual.isSome != c.negate)
  absence : c.operator = .notExists →
    (c.evaluate scope).verdict = .ok ((c.evaluate scope).actual.isNone != c.negate)
  /-- Every other operator of a valid condition fails if it sees nothing, for the missing value. -/
  missing : (c.evaluate scope).actual = none → c.validate = .ok () →
    c.operator.isExistence = false →
    ∃ field, c.resolve = .ok field ∧ (c.evaluate scope).verdict = .error (.missing field)

theorem Names.readsPath (names : c.Names attributes first rest) (scope : Scope) :
    c.ReadsPath scope (attributes scope) (first :: rest) := by
  obtain ⟨field, resolved, lookup⟩ := names.resolve
  have reading : c.evaluate scope = ⟨field.lookup scope,
      (c.test PatternKey.compile? field (field.lookup scope) scope.now).map (· != c.negate)⟩ := by
    rw [evaluate, evaluateWith, resolved]
  refine ⟨fun value => ?_, ?_, fun operator => ?_, fun operator => ?_, fun nothing valid existence => ?_⟩
  · rw [reading, lookup, bind_present?_eq_some, Attributes.lookup_path names.dotless]
  · rw [reading, lookup, bind_present?_eq_none, Attributes.lookup_path names.dotless,
      Attributes.lookup_path_none names.dotless]
  · rw [reading, test_exists (checkPairing_of_field names.offClock (by rw [operator]; rfl)) operator]
    rfl
  · rw [reading,
      test_notExists (checkPairing_of_field names.offClock (by rw [operator]; rfl)) operator]
    rfl
  · obtain ⟨-, pairing, shape, -⟩ := validateWith_eq_ok.mp valid
    have missed : field.lookup scope = none := by
      rw [reading] at nothing
      exact nothing
    refine ⟨field, resolved, ?_⟩
    rw [reading, test_of_valid pairing shape existence, missed,
      untimed_of_pairing names.offClock pairing]
    rfl

/-- **A condition looks at two entries**: that of the whole name and that of the first name of the
path. Where these are the same it has one reading, whatever else the scopes hold. -/
theorem Names.evaluate_congr (names : c.Names attributes first rest)
    (whole : (attributes scope).find? (dotted (first :: rest)) =
      (attributes other).find? (dotted (first :: rest)))
    (start : (attributes scope).find? first = (attributes other).find? first) :
    c.evaluate scope = c.evaluate other := by
  obtain ⟨field, resolved, lookup⟩ := names.resolve
  have same : field.lookup scope = field.lookup other := by
    simp only [lookup, Attributes.lookup_dotted names.dotless, whole, start]
  unfold evaluate evaluateWith
  simp only [resolved, same, test_now names.offClock _ field _ scope.now other.now]

/-- **A name with dots in it reaches exactly the entry that it means.** A condition on attributes, by
the name of a path, sees what the attributes hold under the path and nothing else, and the two entries
of the whole name and of the first name decide what comes of it. -/
theorem path_read (names : c.Names attributes first rest) :
    (∀ scope, c.ReadsPath scope (attributes scope) (first :: rest)) ∧
      ∀ scope other : Scope,
        (attributes scope).find? (dotted (first :: rest)) =
          (attributes other).find? (dotted (first :: rest)) →
        (attributes scope).find? first = (attributes other).find? first →
        c.evaluate scope = c.evaluate other :=
  ⟨names.readsPath, fun _ _ => names.evaluate_congr⟩

section Witness

/-- A user with an address, a plan, and an entry that is called as if it were of the plan. -/
def planScope (score : Value) : Scope where
  context :=
    { userAttributes := .ofList
        [("address", .object [("city", .null), ("country", .text "DE")]),
          ("plan", .object [("tier", .text "silver")]),
          ("plan.tier", .text "gold"),
          ("score", score)] }
  decision := {}
  metadata := .empty
  now := default

/-- A condition on the attribute at the end of a path. -/
def atPath (first second : String) (operator : Operator) : Condition :=
  on .userAttribute (dotted [first, second]) operator (.text "DE")

/-- The country is found in the address, the tier of the plan is hidden by the entry of that name, and
the city counts as missing, being null; the score is not looked at. -/
theorem planScope_read :
    ((atPath "address" "country" .equals).evaluate (planScope .null)).actual = some (.text "DE") ∧
      ((atPath "plan" "tier" .equals).evaluate (planScope .null)).actual = some (.text "gold") ∧
      ((atPath "address" "city" .exists).evaluate (planScope .null)).verdict = .ok false ∧
      ((atPath "address" "city" .equals).evaluate (planScope .null)).verdict =
        .error (.missing (.user "address.city")) ∧
      (atPath "plan" "tier" .equals).evaluate (planScope .null) =
        (atPath "plan" "tier" .equals).evaluate (planScope (.bool true)) := by
  have country : (atPath "address" "country" .equals).Names (·.context.userAttributes) "address"
      ["country"] := ⟨rfl, rfl, by decide, by decide, by decide, nofun⟩
  have tier : (atPath "plan" "tier" .equals).Names (·.context.userAttributes) "plan" ["tier"] :=
    ⟨rfl, rfl, by decide, by decide, by decide, nofun⟩
  have city (operator : Operator) : (atPath "address" "city" operator).Names
      (·.context.userAttributes) "address" ["city"] := by
    have nonblank : dotted ["address", "city"] ≠ "" := by decide
    have solid : Text.trim (dotted ["address", "city"]) = dotted ["address", "city"] := by decide
    exact ⟨rfl, rfl, by decide, nonblank, solid, nofun⟩
  have null : (planScope .null).context.userAttributes.Holds ["address", "city"] .null :=
    .inr ⟨by decide, .through rfl (.here rfl)⟩
  refine ⟨?_, ?_, ?_, ?_, (path_read tier).2 _ _ rfl rfl⟩
  · exact ((path_read country).1 _).sees _ |>.mpr ⟨nofun, .inr ⟨by decide, .through rfl (.here rfl)⟩⟩
  · exact ((path_read tier).1 _).sees _ |>.mpr ⟨nofun, .inl rfl⟩
  · have reads := (path_read (city .exists)).1 (planScope .null)
    rw [reads.existence rfl, reads.blind.mpr (.inr null)]
    rfl
  · have reads := (path_read (city .equals)).1 (planScope .null)
    obtain ⟨_, ⟨⟩, missing⟩ := reads.missing (reads.blind.mpr (.inr null)) rfl rfl
    exact missing

end Witness

end Condition

end Escalation
