/-!
# YAML tokens

What a YAML text is made of, once its indentation has been turned into the beginnings and ends of
blocks.
-/

namespace Escalation.Yaml

/-- How a scalar was written. Only a plain one may be something else than a text. -/
inductive Style where
  | plain
  | quoted
  | block
deriving DecidableEq, Repr

/-- The tag of a node: a kind of data that everyone knows, or one of the text's own. -/
inductive Tag where
  | known (name : String)
  | custom
deriving DecidableEq, Repr

/-- A token. Blocks begin and end with tokens of their own, as brackets do, so that a reader of
tokens need not look at columns. -/
inductive Token where
  | version
  | documentStart
  | documentEnd
  | sequenceStart
  | mappingStart
  | blockEnd
  | flowSequenceStart
  | flowSequenceEnd
  | flowMappingStart
  | flowMappingEnd
  | item
  | comma
  | key
  | value
  /-- A node that was given a name before. -/
  | reference (name : String)
  | anchor (name : String)
  | tag (tag : Tag)
  | scalar (style : Style) (text : String)
deriving DecidableEq, Repr

end Escalation.Yaml
