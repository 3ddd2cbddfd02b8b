/-!
# Tokens and nodes of a YAML text

The tokens are the pieces that a YAML text is read as before its structure is known. Collections of the
block style have no characters of their own; indentation opens and closes them. A document is a tree of
scalars, sequences and mappings. Where the text has a fault, the tree is torn off there: everything in
front of the fault is still in it.
-/

namespace FlowMeter.Yaml

/-- How a scalar is written. -/
inductive Style where
  | plain
  | quoted
  | literal
  | folded
deriving DecidableEq, Repr

/-- One token. The suffix of a tag and the lead of a tag directive are octets, since escapes may
spell any octet. -/
inductive Token where
  | versionDirective (major minor : Nat)
  | tagDirective (handle : String) (lead : List UInt8)
  | documentStart
  | documentEnd
  | blockSequenceStart
  | blockMappingStart
  | blockEnd
  | flowSequenceStart
  | flowSequenceEnd
  | flowMappingStart
  | flowMappingEnd
  | blockEntry
  | flowEntry
  | key
  | value
  | alias (name : String)
  | anchor (name : String)
  | tag (handle : String) (suffix : List UInt8)
  | scalar (style : Style) (text : String)
  | streamEnd
deriving DecidableEq, Repr

/-- A tag, as the octets of its resource name. -/
abbrev Tag := List UInt8

/-- A node. An alias names the number of an anchor; `torn` stands where the text has a fault. -/
inductive Node where
  | alias (target : Nat)
  | scalar (anchor : Option Nat) (tag : Option Tag) (style : Style) (text : String)
  | sequence (anchor : Option Nat) (tag : Option Tag) (items : List Node)
  | mapping (anchor : Option Nat) (tag : Option Tag) (entries : List (Node × Node))
  | torn
deriving Repr

namespace Node

/-- The node that stands for nothing written. -/
def empty : Node := .scalar none none .plain ""

/-- The numbered anchor of a node. -/
def anchor? : Node → Option Nat
  | .alias _ => none
  | .scalar anchor _ _ _ => anchor
  | .sequence anchor _ _ => anchor
  | .mapping anchor _ _ => anchor
  | .torn => none

mutual

/-- The nodes within a node, itself first, in the order in which they start. -/
def nodes : Node → List Node
  | .sequence anchor tag items => .sequence anchor tag items :: itemNodes items
  | .mapping anchor tag entries => .mapping anchor tag entries :: entryNodes entries
  | node => [node]

/-- The nodes within items. -/
def itemNodes : List Node → List Node
  | [] => []
  | item :: items => nodes item ++ itemNodes items

/-- The nodes within entries. -/
def entryNodes : List (Node × Node) → List Node
  | [] => []
  | (key, value) :: entries => nodes key ++ nodes value ++ entryNodes entries

end

/-- The node that a numbered anchor marks: the last of those that start with it. -/
def target? (root : Node) (number : Nat) : Option Node :=
  root.nodes.reverse.find? (·.anchor? == some number)

end Node

/-- A document: its root, which an empty text lacks, and whether the text holds nothing behind it. -/
structure Document where
  root : Option Node
  alone : Bool
deriving Repr

end FlowMeter.Yaml
