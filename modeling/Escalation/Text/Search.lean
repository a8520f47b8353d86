/-!
# Searching, comparing and trimming texts

The three ways in which one text holds another (at its start, at its end, anywhere) and the cut at
the first occurrence of a character. Names of fields and the words for truth are compared without
regard to the case of the twenty-six letters A to Z, and of no others. What is trimmed off a text
are the code points with the white-space property, at either end.
-/

namespace Escalation.Text

/-! ## Searching -/

def startsWith (text needle : List Char) : Bool :=
  needle.isPrefixOf text

def endsWith (text needle : List Char) : Bool :=
  needle.isSuffixOf text

/-- Whether the needle stands somewhere in the text, without a gap. -/
def occursIn (needle : List Char) : List Char → Bool
  | [] => needle.isEmpty
  | c :: cs => needle.isPrefixOf (c :: cs) || occursIn needle cs

def cutAt (mark : Char) : List Char → Option (List Char × List Char)
  | [] => none
  | c :: cs =>
    if c == mark then some ([], cs)
    else (cutAt mark cs).map fun (before, after) => (c :: before, after)

/-- The pieces between the occurrences of a character; an empty text is one empty piece. -/
def piecesBetween (mark : Char) : List Char → List (List Char)
  | [] => [[]]
  | c :: cs =>
    if c == mark then [] :: piecesBetween mark cs
    else
      match piecesBetween mark cs with
      | [] => [[c]]
      | piece :: pieces => (c :: piece) :: pieces

/-! ## Comparing -/

def lowerAscii (s : String) : String :=
  String.ofList (s.toList.map Char.toLower)

def equalsIgnoringAsciiCase (s t : String) : Bool :=
  lowerAscii s == lowerAscii t

/-! ## Trimming -/

/-- The code points with the white-space property, of which texts are trimmed. -/
def isBlank (c : Char) : Bool :=
  let n := c.toNat
  (9 ≤ n && n ≤ 13) || n == 0x20 || n == 0x85 || n == 0xA0 || n == 0x1680 ||
    (0x2000 ≤ n && n ≤ 0x200A) || n == 0x2028 || n == 0x2029 || n == 0x202F || n == 0x205F ||
    n == 0x3000

def trimStart (cs : List Char) : List Char :=
  cs.dropWhile isBlank

def trimChars (cs : List Char) : List Char :=
  (trimStart (trimStart cs).reverse).reverse

def trim (s : String) : String :=
  String.ofList (trimChars s.toList)

def isBlankText (s : String) : Bool :=
  s.toList.all isBlank

end Escalation.Text
