import Escalation.Text.Category.Table

/-!
# General categories

Every code point belongs to one of thirty general categories, which form seven groups. Categories
and groups go by short and by long names.
-/

namespace Escalation.Text

inductive Category where
  | uppercaseLetter | lowercaseLetter | titlecaseLetter | modifierLetter | otherLetter
  | nonspacingMark | spacingMark | enclosingMark
  | decimalNumber | letterNumber | otherNumber
  | connectorPunctuation | dashPunctuation | openPunctuation | closePunctuation
  | initialPunctuation | finalPunctuation | otherPunctuation
  | mathSymbol | currencySymbol | modifierSymbol | otherSymbol
  | spaceSeparator | lineSeparator | paragraphSeparator
  | control | format | surrogate | privateUse | unassigned
deriving DecidableEq, Repr

namespace Category

def letters : List Category :=
  [.uppercaseLetter, .lowercaseLetter, .titlecaseLetter, .modifierLetter, .otherLetter]

def marks : List Category :=
  [.nonspacingMark, .spacingMark, .enclosingMark]

def numbers : List Category :=
  [.decimalNumber, .letterNumber, .otherNumber]

def punctuation : List Category :=
  [.connectorPunctuation, .dashPunctuation, .openPunctuation, .closePunctuation,
    .initialPunctuation, .finalPunctuation, .otherPunctuation]

def symbols : List Category :=
  [.mathSymbol, .currencySymbol, .modifierSymbol, .otherSymbol]

def separators : List Category :=
  [.spaceSeparator, .lineSeparator, .paragraphSeparator]

def others : List Category :=
  [.control, .format, .surrogate, .privateUse, .unassigned]

def byName : List (List String × List Category) :=
  [(["l", "letter"], letters),
    (["lc", "casedletter"], [.uppercaseLetter, .lowercaseLetter, .titlecaseLetter]),
    (["lu", "uppercaseletter"], [.uppercaseLetter]),
    (["ll", "lowercaseletter"], [.lowercaseLetter]),
    (["lt", "titlecaseletter"], [.titlecaseLetter]),
    (["lm", "modifierletter"], [.modifierLetter]),
    (["lo", "otherletter"], [.otherLetter]),
    (["m", "mark", "combiningmark"], marks),
    (["mn", "nonspacingmark"], [.nonspacingMark]),
    (["mc", "spacingmark"], [.spacingMark]),
    (["me", "enclosingmark"], [.enclosingMark]),
    (["n", "number"], numbers),
    (["nd", "decimalnumber", "digit"], [.decimalNumber]),
    (["nl", "letternumber"], [.letterNumber]),
    (["no", "othernumber"], [.otherNumber]),
    (["p", "punctuation", "punct"], punctuation),
    (["pc", "connectorpunctuation"], [.connectorPunctuation]),
    (["pd", "dashpunctuation"], [.dashPunctuation]),
    (["ps", "openpunctuation"], [.openPunctuation]),
    (["pe", "closepunctuation"], [.closePunctuation]),
    (["pi", "initialpunctuation"], [.initialPunctuation]),
    (["pf", "finalpunctuation"], [.finalPunctuation]),
    (["po", "otherpunctuation"], [.otherPunctuation]),
    (["s", "symbol"], symbols),
    (["sm", "mathsymbol"], [.mathSymbol]),
    (["sc", "currencysymbol"], [.currencySymbol]),
    (["sk", "modifiersymbol"], [.modifierSymbol]),
    (["so", "othersymbol"], [.otherSymbol]),
    (["z", "separator"], separators),
    (["zs", "spaceseparator"], [.spaceSeparator]),
    (["zl", "lineseparator"], [.lineSeparator]),
    (["zp", "paragraphseparator"], [.paragraphSeparator]),
    (["c", "other"], others),
    (["cc", "control", "cntrl"], [.control]),
    (["cf", "format"], [.format]),
    (["cs", "surrogate"], [.surrogate]),
    (["co", "privateuse"], [.privateUse]),
    (["cn", "unassigned"], [.unassigned])]

def ofName? (name : String) : Option (List Category) :=
  (byName.find? (·.1.contains name)).map (·.2)

/-- The ranges of a category; those of the unassigned code points are not listed. -/
def ranges : Category → Ranges
  | .uppercaseLetter => CategoryTable.uppercaseLetter
  | .lowercaseLetter => CategoryTable.lowercaseLetter
  | .titlecaseLetter => CategoryTable.titlecaseLetter
  | .modifierLetter => CategoryTable.modifierLetter
  | .otherLetter => CategoryTable.otherLetter
  | .nonspacingMark => CategoryTable.nonspacingMark
  | .spacingMark => CategoryTable.spacingMark
  | .enclosingMark => CategoryTable.enclosingMark
  | .decimalNumber => CategoryTable.decimalNumber
  | .letterNumber => CategoryTable.letterNumber
  | .otherNumber => CategoryTable.otherNumber
  | .connectorPunctuation => CategoryTable.connectorPunctuation
  | .dashPunctuation => CategoryTable.dashPunctuation
  | .openPunctuation => CategoryTable.openPunctuation
  | .closePunctuation => CategoryTable.closePunctuation
  | .initialPunctuation => CategoryTable.initialPunctuation
  | .finalPunctuation => CategoryTable.finalPunctuation
  | .otherPunctuation => CategoryTable.otherPunctuation
  | .mathSymbol => CategoryTable.mathSymbol
  | .currencySymbol => CategoryTable.currencySymbol
  | .modifierSymbol => CategoryTable.modifierSymbol
  | .otherSymbol => CategoryTable.otherSymbol
  | .spaceSeparator => CategoryTable.spaceSeparator
  | .lineSeparator => CategoryTable.lineSeparator
  | .paragraphSeparator => CategoryTable.paragraphSeparator
  | .control => CategoryTable.control
  | .format => CategoryTable.format
  | .surrogate => CategoryTable.surrogate
  | .privateUse => CategoryTable.privateUse
  | .unassigned => []

def assigned : List Category :=
  letters ++ marks ++ numbers ++ punctuation ++ symbols ++ separators ++
    [.control, .format, .surrogate, .privateUse]

/-- Whether a code point belongs to a category. It is unassigned if it belongs to no other. -/
def contains (category : Category) (c : Char) : Bool :=
  if category = .unassigned then assigned.all fun other => !other.ranges.contains c
  else category.ranges.contains c

end Category

end Escalation.Text
