import Escalation.Text.Lowercase.Table

/-!
# Lower case

The lower-case form of a text, for every alphabet. Two letters need more than a table of partners:
the dotted capital I becomes two code points, and a capital sigma has a form of its own at the end
of a word. A sigma ends a word when a cased letter stands before it and none after it, code points
that are ignorable for case being passed over on both sides.
-/

namespace Escalation.Text

namespace Lowercase

/-- Whether the first code point that is not ignorable for case is a cased letter. -/
def meetsCased (cs : List Char) : Bool :=
  match cs.dropWhile caseIgnorable.contains with
  | [] => false
  | c :: _ => cased.contains c

def letter (c : Char) : List Char :=
  if c == 'İ' then ['i', '\u0307']
  else [(runs.findSome? (·.image? c)).getD c]

/-- The lower-case form of a capital sigma between the text before it, last letter first, and the
text after it. At the end of a word it is the final sigma. -/
def sigma (before after : List Char) : Char :=
  if meetsCased before && !meetsCased after then 'ς' else 'σ'

/-- Lower case of the second list, with the first list, reversed, standing before it. -/
def after (before : List Char) : List Char → List Char
  | [] => []
  | c :: cs => (if c == 'Σ' then [sigma before cs] else letter c) ++ after (c :: before) cs

end Lowercase

def lowercaseChars (cs : List Char) : List Char :=
  Lowercase.after [] cs

/-- The lower-case form of a text. It is not the texts of its letters put together, for a sigma
looks at its neighbours. -/
def lowercase (s : String) : String :=
  String.ofList (lowercaseChars s.toList)

end Escalation.Text
