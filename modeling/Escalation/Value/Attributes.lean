import Escalation.Value

/-!
# Attributes

A map from names to values whose entries are in order at every depth, by its type. Two maps with
the same entries are therefore equal, whatever order the entries came in.
-/

namespace Escalation

/-- Named values, which are canonical, in the order of their names. So two attributes that hold
the same under every name are equal. -/
structure Attributes where
  entries : List (String × Value)
  ascending : Keyed.Ascending entries
  canonical : Value.CanonicalMembers entries

namespace Attributes

@[ext]
theorem ext {a b : Attributes} (h : a.entries = b.entries) : a = b := by
  cases a; cases b; cases h; rfl

def empty : Attributes :=
  ⟨[], .nil, trivial⟩

instance : EmptyCollection Attributes := ⟨empty⟩
instance : Inhabited Attributes := ⟨empty⟩

def find? (a : Attributes) (name : String) : Option Value :=
  Keyed.find? name a.entries

def insert (a : Attributes) (name : String) (value : Value) : Attributes where
  entries := Keyed.insert name value.canonical a.entries
  ascending := Keyed.ascending_insert _ _ a.ascending
  canonical := Value.canonicalMembers_insert (Value.canonical_canonical value) a.canonical

def insertAll (a : Attributes) (entries : List (String × Value)) : Attributes :=
  entries.foldl (fun a e => a.insert e.1 e.2) a

def ofList (entries : List (String × Value)) : Attributes :=
  empty.insertAll entries

def same (a b : Attributes) : Bool :=
  Value.sameMembers a.entries b.entries

end Attributes

end Escalation
