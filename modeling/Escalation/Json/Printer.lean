import Escalation.Json
import Escalation.Number.Layout

/-!
# Writing JSON text

`Json.render` writes a document on one line, `Json.renderIndented` with one item or member a line.
What has no JSON text, such as a number that is not finite, is written as null.
-/

namespace Escalation.Json

def hexUnit (n : Nat) : String :=
  let ds := Nat.toDigits 16 n
  String.ofList (List.replicate (4 - ds.length) '0' ++ ds)

/-- A character inside quotes. Quotes, backslashes and control characters are escaped. -/
def quotedChar (c : Char) : String :=
  if c == '"' then "\\\""
  else if c == '\\' then "\\\\"
  else if c == '\n' then "\\n"
  else if c == '\r' then "\\r"
  else if c == '\t' then "\\t"
  else if c.toNat == 8 then "\\b"
  else if c.toNat == 12 then "\\f"
  else if c.toNat < 0x20 then "\\u" ++ hexUnit c.toNat
  else c.toString

def quoted (s : String) : String :=
  "\"" ++ s.toList.foldl (fun text c => text ++ quotedChar c) "" ++ "\""

def Number.render : Number → String
  | .integer n => toString n
  | .real x => Escalation.Number.Layout.document.render x

mutual
/-- A document on one line. A number that is not finite and a foreign part are null, for they have
no text. -/
def render : Json → String
  | .null => "null"
  | .bool b => if b then "true" else "false"
  | .number n => n.render
  | .text s => quoted s
  | .list items => "[" ++ renderItems items ++ "]"
  | .object members => "\x7b" ++ renderMembers members ++ "\x7d"
  | .foreign => "null"
termination_by structural json => json
def renderItems : List Json → String
  | [] => ""
  | item :: items =>
    item.render ++ (if items.isEmpty then "" else ",") ++ renderItems items
termination_by structural items => items
def renderMembers : List (String × Json) → String
  | [] => ""
  | (name, value) :: members =>
    quoted name ++ ":" ++ value.render ++ (if members.isEmpty then "" else ",") ++
      renderMembers members
termination_by structural members => members
end

def newLine (level : Nat) : String :=
  "\n" ++ String.ofList (List.replicate (2 * level) ' ')

mutual
/-- A document with an item or member a line, inside `level` others. -/
def renderAt (level : Nat) : Json → String
  | .null => "null"
  | .bool b => if b then "true" else "false"
  | .number n => n.render
  | .text s => quoted s
  | .list items =>
    if items.isEmpty then "[]"
    else "[" ++ renderItemsAt (level + 1) items ++ newLine level ++ "]"
  | .object members =>
    if members.isEmpty then "\x7b\x7d"
    else "\x7b" ++ renderMembersAt (level + 1) members ++ newLine level ++ "\x7d"
  | .foreign => "null"
termination_by structural json => json
def renderItemsAt (level : Nat) : List Json → String
  | [] => ""
  | item :: items =>
    newLine level ++ item.renderAt level ++ (if items.isEmpty then "" else ",") ++
      renderItemsAt level items
termination_by structural items => items
def renderMembersAt (level : Nat) : List (String × Json) → String
  | [] => ""
  | (name, value) :: members =>
    newLine level ++ quoted name ++ ": " ++ value.renderAt level ++
      (if members.isEmpty then "" else ",") ++ renderMembersAt level members
termination_by structural members => members
end

/-- A document with an item or member a line. Empty lists and objects stay on the line they are
on. -/
def renderIndented (json : Json) : String :=
  json.renderAt 0

end Escalation.Json
