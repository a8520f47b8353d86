import Escalation.Json

/-!
# Changing members

Of several members of one name the last may count (`Json.lastWins`), and members may be put in the
order of their names (`Json.arranged`), both at every depth; members may be left out, added or
changed. What is not an object stays as it is, and so do the items of what is not a list.
-/

namespace Escalation.Json

/-- A member put behind the others, in place of one of its name. -/
def setMember (name : String) (value : Json) (members : List (String × Json)) :
    List (String × Json) :=
  members.filter (·.1 != name) ++ [(name, value)]

mutual
/-- The document in which of several members of one name the last counts, at every depth. It stays
where it stands, and those before it are dropped. -/
def lastWins : Json → Json
  | .list items => .list (lastWinsItems items)
  | .object members => .object (lastWinsMembers [] members)
  | json => json
termination_by structural json => json
def lastWinsItems : List Json → List Json
  | [] => []
  | item :: items => item.lastWins :: lastWinsItems items
termination_by structural items => items
/-- The members put one by one behind those already there. -/
def lastWinsMembers (done : List (String × Json)) : List (String × Json) → List (String × Json)
  | [] => done
  | (name, value) :: members => lastWinsMembers (setMember name value.lastWins done) members
termination_by structural members => members
end

/-- A member put in the order of the names. -/
def placeMember (name : String) (value : Json) : List (String × Json) → List (String × Json)
  | [] => [(name, value)]
  | (n, v) :: members =>
    if n < name then (n, v) :: placeMember name value members
    else (name, value) :: (n, v) :: members

mutual
/-- The document with the members of each object in the order of their names, at every depth. -/
def arranged : Json → Json
  | .list items => .list (arrangedItems items)
  | .object members => .object (arrangedMembers members)
  | json => json
termination_by structural json => json
def arrangedItems : List Json → List Json
  | [] => []
  | item :: items => item.arranged :: arrangedItems items
termination_by structural items => items
def arrangedMembers : List (String × Json) → List (String × Json)
  | [] => []
  | (name, value) :: members => placeMember name value.arranged (arrangedMembers members)
termination_by structural members => members
end

def without (names : List String) : Json → Json
  | .object members => .object (members.filter fun m => !names.contains m.1)
  | json => json

def extend (more : List (String × Json)) : Json → Json
  | .object members => .object (members ++ more)
  | json => json

/-- The object with the members of that name changed. -/
def adjust (name : String) (change : Json → Json) : Json → Json
  | .object members =>
    .object (members.map fun m => if m.1 == name then (m.1, change m.2) else m)
  | json => json

/-- The list with every item changed. What is no list stays as it is. -/
def mapItems (change : Json → Json) : Json → Json
  | .list items => .list (items.map change)
  | json => json

end Escalation.Json
