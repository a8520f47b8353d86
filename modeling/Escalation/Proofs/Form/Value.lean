import Escalation.Form.Value
import Escalation.Proofs.Value.Alike

/-!
# Values are read back

The document of a value denotes the value, and the document of attributes the attributes. A document
that is read as a value has its members put in order, so the law is about values whose members are
in order already, at every depth: these are all that can be built from maps, and attributes are so
by their type. The induction is on the value, with its items and its members.
-/

namespace Escalation

namespace Keyed

variable {α : Type}

theorem Ascending.nodup {entries : List (String × α)} (h : Ascending entries) :
    (entries.map Prod.fst).Nodup :=
  List.pairwise_map.mpr (h.imp fun lt => String.ne_of_lt lt)

/-- Entries that are in order are their own map. -/
theorem ofList_of_ascending {entries : List (String × α)} (h : Ascending entries) :
    ofList entries = entries :=
  ext_of_find? (ascending_ofList _) h fun _ => find?_ofList h.nodup _

end Keyed

namespace Value

mutual
/-- What is canonical stays as it is. -/
theorem canonical_of_canonical : (v : Value) → v.Canonical → v.canonical = v
  | .null, _ | .bool _, _ | .number _, _ | .text _, _ => rfl
  | .list items, h => congrArg Value.list (canonicalItems_of_canonical items h)
  | .object members, ⟨ascending, h⟩ => by
    rw [canonical, canonicalMembers_of_canonical members h, Keyed.ofList_of_ascending ascending]
theorem canonicalItems_of_canonical :
    (items : List Value) → CanonicalItems items → canonicalItems items = items
  | [], _ => rfl
  | item :: items, ⟨first, rest⟩ =>
    congrArg₂ List.cons (canonical_of_canonical item first) (canonicalItems_of_canonical items rest)
theorem canonicalMembers_of_canonical :
    (members : List (String × Value)) → CanonicalMembers members →
      canonicalMembers members = members
  | [], _ => rfl
  | (_, value) :: members, ⟨first, rest⟩ => by
    rw [canonicalMembers, canonical_of_canonical value first,
      canonicalMembers_of_canonical members rest]
end

mutual
/-- **A value is read back** from its document. -/
theorem ofJson?_toJson : (v : Value) → v.Canonical → ofJson? v.toJson = some v
  | .null, _ | .bool _, _ | .number _, _ | .text _, _ => rfl
  | .list items, h => by
    rw [toJson, ofJson?, itemsOfJson?_itemsToJson items h]
    rfl
  | .object members, ⟨ascending, h⟩ => by
    rw [toJson, ofJson?, membersOfJson?_membersToJson members h, Option.map_some,
      Keyed.ofList_of_ascending ascending]
theorem itemsOfJson?_itemsToJson :
    (items : List Value) → CanonicalItems items → itemsOfJson? (itemsToJson items) = some items
  | [], _ => rfl
  | item :: items, ⟨first, rest⟩ => by
    rw [itemsToJson, itemsOfJson?, ofJson?_toJson item first, itemsOfJson?_itemsToJson items rest]
    rfl
theorem membersOfJson?_membersToJson :
    (members : List (String × Value)) → CanonicalMembers members →
      membersOfJson? (membersToJson members) = some members
  | [], _ => rfl
  | (name, value) :: members, ⟨first, rest⟩ => by
    rw [membersToJson, membersOfJson?, ofJson?_toJson value first,
      membersOfJson?_membersToJson members rest]
    rfl
end

end Value

namespace Attributes

theorem ofList_entries (a : Attributes) : ofList a.entries = a := by
  refine Attributes.ext ?_
  rw [ofList, insertAll_entries, Value.canonicalMembers_of_canonical _ a.canonical]
  exact Keyed.ofList_of_ascending a.ascending

/-- **Attributes are read back** from their document. -/
theorem ofJson?_toJson (a : Attributes) : ofJson? a.toJson = some a := by
  rw [toJson, ofJson?, Value.membersOfJson?_membersToJson _ a.canonical, Option.map_some,
    ofList_entries]

end Attributes

end Escalation
