import Escalation.Fault
import Escalation.Form.Rule
import Escalation.Json.Members
import Escalation.Json.Reader
import Escalation.Text.Search
import Escalation.Yaml.Document

/-!
# Sources of rules

Rule books come from files, from texts that a host gives in memory, and from feeds that a host asks
in its own way. What files and feeds hold at a moment is a `Supply`. A document is a whole rule
book or the mere list of its rules; an empty YAML document is an empty book. A book is loaded only
if it is valid.
-/

namespace Escalation

/-! ## Formats -/

/-- The format of a path: JSON if the last part of the path ends in `.json`, in any case, with
something in front of the dot; else YAML. -/
def Dialect.ofPath (path : String) : Dialect :=
  let parts := (Text.piecesBetween '/' path.toList).filter fun p => !p.isEmpty && p != ['.']
  let backwards := (parts.getLast?.getD []).reverse
  match Text.cutAt '.' backwards with
  | some (ending, stem) =>
    if !stem.isEmpty && Text.equalsIgnoringAsciiCase (String.ofList ending.reverse) "json" then
      .json
    else .yaml
  | none => .yaml

def Dialect.document? (d : Dialect) (text : String) : Option Json :=
  match d with
  | .json => (Json.read? text).map Json.lastWins
  | .yaml => Yaml.read? text

namespace RuleBook

/-- The book that a document denotes: the form of a book, or the list of its rules, which leaves
the cache as it is by default. An empty YAML document is an empty book. -/
def ofDocument? (d : Dialect) : Json → Option RuleBook
  | .list items => (items.mapM (Rule.ofJson? d)).map fun rules => { rules }
  | .null => if d = .yaml then some {} else none
  | json => ofJson? d json

/-- The valid book that a text denotes. A text that cannot be read fails for the source alone, a
book that is not valid for the first fault found in it. -/
def load (source : String) (d : Dialect) (text : String) : Except RouterFault RuleBook :=
  match (d.document? text).bind (ofDocument? d) with
  | none => .error (.load source)
  | some book =>
    match book.validate with
    | .ok _ => .ok book
    | .error cause => .error (.invalid source cause)

end RuleBook

/-! ## Sources -/

/-- Where rules come from: a file, a text that the host holds in memory, or a feed, which the host
asks in its own way. -/
inductive Source where
  | file (path : String)
  | text (id : String) (dialect : Dialect) (content : String)
  | feed (id : String)
deriving DecidableEq, Repr

/-- What files and feeds hold at a moment. Loading at another moment is loading from another
supply. -/
structure Supply where
  /-- The content of a file, if it can be read. -/
  file? : String → Option String
  /-- What a feed yields. -/
  feed : String → Except RouterFault RuleBook

namespace Source

def load (supply : Supply) : Source → Except RouterFault RuleBook
  | .file path =>
    match supply.file? path with
    | some content => RuleBook.load path (.ofPath path) content
    | none => .error (.load path)
  | .text id dialect content => RuleBook.load id dialect content
  | .feed id => supply.feed id

/-- The books of all sources in order, or the failure of the first that fails. -/
def loadAll (supply : Supply) : List Source → Except RouterFault (List RuleBook)
  | [] => .ok []
  | source :: sources => do
    let book ← source.load supply
    let books ← loadAll supply sources
    return book :: books

end Source

end Escalation
