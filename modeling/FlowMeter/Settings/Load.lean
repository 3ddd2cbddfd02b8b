import FlowMeter.Settings.Basic
import FlowMeter.Yaml.Node.Reader
import FlowMeter.Yaml.Scalar

/-!
# Loading settings

A blank text gives the defaults. Any other text is one YAML document whose root is a mapping. Its
entries are taken in order; entries of unknown names are passed over with their values, and a setting
that is given twice is refused. The level and the flush interval are checked last.
-/

namespace FlowMeter.Settings

open Yaml

/-- The path of a setting: the names that lead to it. -/
abbrev Path := List String

/-- The tag of a standard kind of scalar. -/
def standardTag (kind : String) : Tag :=
  ("tag:yaml.org,2002:" ++ kind).toUTF8.toList

/-- The word of a local tag: its text behind the exclamation mark, or the mark alone. -/
def localTag? : Option Tag → Option String
  | some (0x21 :: rest) =>
    String.fromUTF8? (ByteArray.mk (if rest.isEmpty then [0x21] else rest).toArray)
  | _ => none

/-- The value of a scalar that is told by its text alone. -/
def foundPlain (text : String) : Found :=
  match Scalar.resolve text.toList with
  | .null => .null
  | .bool value => .bool value
  | .int value => .int value
  | .float value => .float value
  | .text => .text text

/-- The problem of a scalar whose standard tag does not fit its text, or else the problem of its
value. -/
def taggedProblem (found : Option Found) (text : String) (needed wanted : Expected) : Problem :=
  match found with
  | some found => .invalidType found wanted
  | none => .invalidValue (.text text) needed

/-- The problem of a scalar where another kind of value is wanted. -/
def scalarProblem (tag : Option Tag) (style : Style) (text : String) (wanted : Expected) : Problem :=
  let untagged := if style = .plain then foundPlain text else .text text
  match tag with
  | none => .invalidType untagged wanted
  | some tag =>
    let chars := text.toList
    if tag = standardTag "bool" then
      taggedProblem ((Scalar.bool? chars).map .bool) text .bool wanted
    else if tag = standardTag "int" then
      taggedProblem ((Scalar.int? chars).map .int) text .int wanted
    else if tag = standardTag "float" then
      taggedProblem ((Scalar.float? chars).map .float) text .float wanted
    else if tag = standardTag "null" then
      taggedProblem (if Scalar.isNull chars then some .null else none) text .null wanted
    else if tag.head? = some 0x21 then .invalidType untagged wanted
    else .invalidType (.text text) wanted

/-- The error of a node where another kind of value is wanted. -/
def mismatch (path : Path) (node : Node) (wanted : Expected) : Error :=
  match node with
  | .scalar _ tag style text => .shape path (scalarProblem tag style text wanted)
  | .sequence _ _ _ => .shape path (.invalidType .sequence wanted)
  | .mapping _ _ _ => .shape path (.invalidType .mapping wanted)
  | .alias _ => .malformed
  | .torn => .malformed

/-- Whether a node is an alias. -/
def isAlias : Node → Bool
  | .alias _ => true
  | _ => false

/-- The node itself, or the one that an alias leads to. -/
def follow (root : Node) : Node → Node
  | .alias number => (root.target? number).getD .torn
  | node => node

/-- Reads any scalar as text. -/
def readText (path : Path) (wanted : Expected) : Node → Except Error String
  | .scalar _ _ _ text => .ok text
  | node => .error (mismatch path node wanted)

/-- The text of a scalar that spells a value of a standard kind: a plain one, or a literal one with
the tag of the kind. -/
def spelling? (kind : String) : Node → Option String
  | .scalar _ tag style text =>
    if style = .plain || (style = .literal && tag = some (standardTag kind)) then some text else none
  | _ => none

/-- Reads a truth value. -/
def readBool (path : Path) (node : Node) : Except Error Bool :=
  match (spelling? "bool" node).bind (Scalar.bool? ·.toList) with
  | some value => .ok value
  | none => .error (mismatch path node .bool)

/-- Reads a number of 32 bits. -/
def readWord (path : Path) (node : Node) : Except Error UInt32 :=
  match ((spelling? "int" node).bind (Scalar.unsigned? ·.toList)).filter (· < UInt64.size) with
  | some n =>
    if n < UInt32.size then .ok n.toUInt32 else .error (.shape path (.invalidValue (.int n) .word))
  | none => .error (mismatch path node .word)

/-- Reads a length of time. -/
def readDuration (path : Path) (node : Node) : Except Error Duration := do
  let text ← readText path .duration node
  match Duration.parse text.toList with
  | .ok duration => return duration
  | .error .malformed => throw (.shape path (.invalidValue (.text text) .duration))
  | .error .beyondRange => throw .beyondRange

/-- Reads a text that may be absent, as null or nothing in its place. A tag of null demands null. -/
def readOptional (parent : Path) (name : String) (node : Node) : Except Error (Option String) :=
  match node with
  | .scalar _ tag .plain text =>
    match tag with
    | none => if text = "" || Scalar.isNull text.toList then .ok none else .ok (some text)
    | some tag =>
      if tag = standardTag "null" then
        if Scalar.isNull text.toList then .ok none
        else .error (.shape parent (.invalidValue (.text text) .null))
      else .ok (some text)
  | node => (readText (parent ++ [name]) .text node).map some

/-- Demands that the value behind a variant tag is null or nothing. -/
def readUnit (path : Path) : Node → Except Error Unit
  | .scalar _ _ style text =>
    if style = .plain && (text = "" || Scalar.isNull text.toList) then .ok ()
    else .error (.shape path (.invalidValue (.text text) .null))
  | .sequence _ _ _ => .error (.shape path (.invalidType .sequence .unit))
  | .mapping _ _ _ => .error (.shape path (.invalidType .mapping .unit))
  | _ => .error .malformed

/-- The local tag of a node. -/
def variantTag? : Node → Option String
  | .scalar _ tag _ _ => localTag? tag
  | .sequence _ tag _ => localTag? tag
  | .mapping _ tag _ => localTag? tag
  | _ => none

/-- Reads a way of aggregation: the word itself, or a local tag in front of nothing. An unknown tag is
told under the path `tagPath`. -/
def readAggregation (tagPath path : Path) (node : Node) : Except Error Aggregation :=
  match variantTag? node with
  | some word =>
    match Aggregation.ofWord? word with
    | some aggregation => (readUnit path node).map fun _ => aggregation
    | none => .error (.shape tagPath (.unknownVariant word))
  | none =>
    match node with
    | .scalar _ _ _ word =>
      match Aggregation.ofWord? word with
      | some aggregation => .ok aggregation
      | none => .error (.shape path (.unknownVariant word))
    | node => .error (mismatch path node .variantTag)

/-- The entries of a node that is read as a mapping; nothing in its place has none. -/
def readMapping (path : Path) (wanted : Expected) : Node → Except Error (List (Node × Node))
  | .mapping _ _ entries => .ok entries
  | .scalar anchor tag style text =>
    if style = .plain && text = "" then .ok []
    else .error (mismatch path (.scalar anchor tag style text) wanted)
  | node => .error (mismatch path node wanted)

/-- Reads the name of an entry, and the name that it has in a path: an alias has none there. -/
def readName (root : Node) (path : Path) (key : Node) : Except Error (String × String) := do
  let name ← readText path .fieldName (follow root key)
  match key with
  | .alias _ => return (name, "?")
  | _ => return (name, name)

/-- Reads the entries of a mapping in order. `set` gives the new settings for a known name; a name
may be set once. Values of other names are passed over. -/
def readFields {S : Type} (root : Node) (path : Path) (known : List String)
    (set : String → String → S → Node → Except Error S) :
    List String → S → List (Node × Node) → Except Error S
  | _, settings, [] => .ok settings
  | seen, settings, (key, value) :: entries => do
    let (name, shown) ← readName root path key
    if known.contains name then
      if seen.contains name then throw (.shape path (.duplicateField name))
      let settings ← set name shown settings value
      readFields root path known set (name :: seen) settings entries
    else readFields root path known set seen settings entries

/-- Sets one of the settings of logging. -/
def setLog (root : Node) (parent : Path) (name shown : String) (log : LogSettings) (value : Node) :
    Except Error LogSettings :=
  let value := follow root value
  if name = "level" then
    (readText (parent ++ [shown]) .text value).map fun level => { log with level }
  else if name = "file" then
    (readOptional parent shown value).map fun file => { log with file }
  else (readWord (parent ++ [shown]) value).map fun retention => { log with retention }

/-- Reads the settings of logging. -/
def readLog (root : Node) (path : Path) (node : Node) : Except Error LogSettings := do
  let entries ← readMapping path .log node
  readFields root path ["level", "file", "retention"] (setLog root path) [] {} entries

/-- Sets one of the settings. An unknown tag on a way of aggregation is told of the alias that led to it,
or else of the mapping. -/
def setField (root : Node) (name shown : String) (settings : Settings) (value : Node) :
    Except Error Settings :=
  let tagPath := if isAlias value then [shown] else []
  let value := follow root value
  if name = "aggregation" then
    (readAggregation tagPath [shown] value).map fun aggregation => { settings with aggregation }
  else if name = "with-local-port" then
    (readBool [shown] value).map fun withLocalPort => { settings with withLocalPort }
  else if name = "flush-interval" then
    (readDuration [shown] value).map fun flushInterval => { settings with flushInterval }
  else (readLog root [shown] value).map fun log => { settings with log }

/-- Reads all settings from the root of a document. -/
def ofNode (root : Node) : Except Error Settings := do
  let entries ← readMapping [] .settings root
  readFields root [] ["aggregation", "with-local-port", "flush-interval", "log"] (setField root)
    [] {} entries

/-- Reads all settings from a document, which may be empty but has to be the only one. A text with a
fault is malformed whatever else is wrong with it, unless a flush interval in front of the fault goes
beyond the range. -/
def ofDocument (document : Document) : Except Error Settings :=
  let settings :=
    match document.root with
    | some root => ofNode root
    | none => .ok {}
  match settings, document.alone with
  | .error .beyondRange, _ => .error .beyondRange
  | settings, true => settings
  | _, false => .error .malformed

/-- Checks what the shape of the settings leaves open. -/
def check (settings : Settings) : Except Error Settings :=
  if !settings.log.levelKnown then .error (.unknownLevel settings.log.level)
  else if settings.flushInterval.isZero then .error .zeroInterval
  else .ok settings

/-- Loads settings from a text. -/
def load (text : String) : Except Error Settings :=
  if text.toList.all Text.isWhite then .ok {}
  else ofDocument (Document.ofText text.toList) >>= check

/-- Loads settings from the contents of a file, or from no file. -/
def loadFile (contents : Option ByteArray) : Except Error Settings :=
  match contents with
  | none => .error .missingFile
  | some bytes =>
    match String.fromUTF8? bytes with
    | none => .error .notText
    | some text => load text

end FlowMeter.Settings
