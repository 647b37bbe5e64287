/-!
# YAML tokens

The marks and scalars of a document, and the starts and ends of block collections, which the
indentation implies.
-/

set_option autoImplicit false

namespace Provision.Yaml

/-- A token. -/
inductive Token where
  /-- A line that gives directions about the document; they change nothing here. -/
  | directive
  | documentStart
  | documentEnd
  | blockSequence
  | blockMapping
  /-- The end of a block collection. -/
  | blockEnd
  | flowSequence
  | flowSequenceEnd
  | flowMapping
  | flowMappingEnd
  /-- A dash in front of an item. -/
  | blockEntry
  /-- A comma. -/
  | flowEntry
  | key
  | value
  | anchor (name : String)
  | reference (name : String)
  /-- A tag: its handle and what follows it. -/
  | tag (handle suffix : String)
  | scalar (isPlain : Bool) (text : String)
  deriving DecidableEq, Repr

end Provision.Yaml
