import Escalation.Text.Search
import Escalation.Text.CaseFold
import Escalation.Text.Category
import Escalation.Text.Lowercase.Table
import Escalation.Text.Property.Table
import Escalation.Text.Script

/-!
# Sets of characters

What a character class of a pattern denotes: ranges and properties, joined by the operations on
sets. `CharSet.contains` decides membership. A set is never listed, so the closure under case is
the question whether a variant of the character is in the set.
-/

namespace Escalation

open Text

inductive CharProperty where
  | any
  | ascii
  | assigned
  | category (category : Category)
  | script (name : String)
  | alphabetic
  | uppercase
  | lowercase
  | cased
  | caseIgnorable
  | whiteSpace
deriving DecidableEq, Repr

def CharProperty.contains : CharProperty → Char → Bool
  | .any, _ => true
  | .ascii, c => c.toNat < 128
  | .assigned, c => !Category.unassigned.contains c
  | .category group, c => group.contains c
  | .script name, c => Script.contains name c
  | .alphabetic, c => Property.alphabetic.contains c
  | .uppercase, c => Property.uppercase.contains c
  | .lowercase, c => Property.lowercase.contains c
  | .cased, c => Lowercase.cased.contains c
  | .caseIgnorable, c => Lowercase.caseIgnorable.contains c
  | .whiteSpace, c => isBlank c

/-- A set of characters: ranges and properties joined by the operations on sets. The closures
under case stand in the term, since a set is not listed. -/
inductive CharSet where
  | none
  | range (first last : Char)
  | property (p : CharProperty)
  | union (a b : CharSet)
  | inter (a b : CharSet)
  | compl (a : CharSet)
  /-- The variants in case of the members. -/
  | folded (a : CharSet)
  /-- The variants in case of the members, for the letters A to Z. -/
  | foldedAscii (a : CharSet)
deriving DecidableEq, Repr

namespace CharSet

def contains : CharSet → Char → Bool
  | none, _ => false
  | range first last, c => first ≤ c && c ≤ last
  | property p, c => p.contains c
  | union a b, c => a.contains c || b.contains c
  | inter a b, c => a.contains c && b.contains c
  | compl a, c => !a.contains c
  | folded a, c => a.contains c || (caseVariants c).any a.contains
  | foldedAscii a, c => a.contains c || (asciiCaseVariants c).any a.contains

def single (c : Char) : CharSet :=
  range c c

def all : CharSet :=
  property .any

def diff (a b : CharSet) : CharSet :=
  inter a (compl b)

/-- What is in exactly one of the sets. -/
def symmDiff (a b : CharSet) : CharSet :=
  union (diff a b) (diff b a)

def unions (sets : List CharSet) : CharSet :=
  sets.foldl union none

def ranges (rs : List (Char × Char)) : CharSet :=
  unions (rs.map fun r => range r.1 r.2)

def categories (cs : List Category) : CharSet :=
  unions (cs.map fun c => property (.category c))

def digit : CharSet :=
  property (.category .decimalNumber)

def space : CharSet :=
  property .whiteSpace

/-- The characters of words: letters, marks, digits, connectors and joiners. -/
def word : CharSet :=
  unions [property .alphabetic, categories Category.marks, digit,
    property (.category .connectorPunctuation), range '\u200C' '\u200D']

def asciiDigit : CharSet :=
  range '0' '9'

def asciiSpace : CharSet :=
  ranges [('\t', '\r'), (' ', ' ')]

def asciiWord : CharSet :=
  ranges [('0', '9'), ('A', 'Z'), ('_', '_'), ('a', 'z')]

end CharSet

end Escalation
