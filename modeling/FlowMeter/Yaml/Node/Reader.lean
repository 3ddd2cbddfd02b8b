import FlowMeter.Yaml.Basic
import FlowMeter.Yaml.Token.Lexer

/-!
# Reading tokens as a document

The reader follows the grammar of YAML. Where the tokens break off or do not fit the grammar, or an
alias or a tag handle is unknown, it stops, and the tree is torn there.
-/

namespace FlowMeter.Yaml

/-- The tags that a handle leads to, as octets. -/
abbrev Handles := List (String × List UInt8)

namespace Node

/-- The unread tokens, and the numbers of the anchors met so far. -/
structure Reader where
  tokens : List Token
  anchors : List (String × Nat)

namespace Reader

/-- Replaces the unread tokens. -/
def resume (reader : Reader) (tokens : List Token) : Reader :=
  { reader with tokens }

/-- Numbers an anchor by the count of names so far. A name that is used again keeps its own place
among the names, so the count does not grow with it. -/
def number (reader : Reader) (name : Option String) : Option Nat × Reader :=
  match name with
  | none => (none, reader)
  | some name =>
    let next := reader.anchors.length
    let others := reader.anchors.filter (·.1 != name)
    (some next, { reader with anchors := (name, next) :: others })

/-- Reads the anchor and the tag of a node, in either order. -/
def properties (reader : Reader) : Option String × Option (String × List UInt8) × Reader :=
  match reader.tokens with
  | .anchor name :: .tag handle suffix :: rest => (some name, some (handle, suffix), reader.resume rest)
  | .tag handle suffix :: .anchor name :: rest => (some name, some (handle, suffix), reader.resume rest)
  | .anchor name :: rest => (some name, none, reader.resume rest)
  | .tag handle suffix :: rest => (none, some (handle, suffix), reader.resume rest)
  | _ => (none, none, reader)

end Reader

/-- The tag of a handle and a suffix; without a handle the suffix is the tag. -/
def tagOf? (handles : Handles) : Option (String × List UInt8) → Option (Option Tag)
  | none => some none
  | some (handle, suffix) =>
    if handle = "" then some (some suffix)
    else (handles.lookup handle).map fun lead => some (lead ++ suffix)

/-- Whether an item of a block sequence is left empty before this token. -/
def endsItem : Token → Bool
  | .blockEntry | .blockEnd => true
  | _ => false

/-- Whether an item of a sequence without indentation of its own is left empty. -/
def endsIndentlessItem : Token → Bool
  | .blockEntry | .key | .value | .blockEnd => true
  | _ => false

/-- Whether a key or value of a block mapping is left empty. -/
def endsBlockField : Token → Bool
  | .key | .value | .blockEnd => true
  | _ => false

/-- Whether a key of a flow mapping is left empty. -/
def endsFlowKey : Token → Bool
  | .value | .flowEntry | .flowMappingEnd => true
  | _ => false

/-- Whether a value of a flow mapping is left empty. -/
def endsFlowValue : Token → Bool
  | .flowEntry | .flowMappingEnd => true
  | _ => false

/-- Whether the key of a lone pair in a flow sequence is left empty. -/
def endsPairKey : Token → Bool
  | .value | .flowEntry | .flowSequenceEnd => true
  | _ => false

/-- Whether the value of a lone pair in a flow sequence is left empty. -/
def endsPairValue : Token → Bool
  | .flowEntry | .flowSequenceEnd => true
  | _ => false

/-- Where a node may stand: in a block or flow collection, and whether a sequence of the block style
may start without indentation of its own. -/
structure Setting where
  block : Bool
  indentless : Bool

/-- Reads a node that has no content; it needs an anchor or a tag. -/
def readNothing (anchor : Option Nat) (tag : Option Tag) (reader : Reader) : Node × Option Reader :=
  if anchor.isSome || tag.isSome then (.scalar anchor tag .plain "", some reader) else (.torn, none)

mutual

/-- Reads a node. -/
def read (handles : Handles) : Nat → Setting → Reader → Node × Option Reader
  | 0, _, _ => (.torn, none)
  | fuel + 1, setting, reader =>
    match reader.tokens with
    | .alias name :: rest =>
      match reader.anchors.lookup name with
      | some number => (.alias number, some (reader.resume rest))
      | none => (.torn, none)
    | _ =>
      let (name, tagged, reader) := reader.properties
      match tagOf? handles tagged with
      | none => (.torn, none)
      | some tag =>
        let (anchor, reader) := reader.number name
        match reader.tokens with
        | [] => (.torn, none)
        | token :: rest =>
          if setting.indentless && token = .blockEntry then
            let (items, after) := readIndentlessItems handles fuel reader
            (.sequence anchor tag items, after)
          else
            match token with
            | .scalar style text => (.scalar anchor tag style text, some (reader.resume rest))
            | .flowSequenceStart =>
              let (items, after) := readFlowItems handles fuel true (reader.resume rest)
              (.sequence anchor tag items, after)
            | .flowMappingStart =>
              let (entries, after) := readFlowEntries handles fuel true (reader.resume rest)
              (.mapping anchor tag entries, after)
            | .blockSequenceStart =>
              if setting.block then
                let (items, after) := readItems handles fuel (reader.resume rest)
                (.sequence anchor tag items, after)
              else readNothing anchor tag reader
            | .blockMappingStart =>
              if setting.block then
                let (entries, after) := readEntries handles fuel (reader.resume rest)
                (.mapping anchor tag entries, after)
              else readNothing anchor tag reader
            | _ => readNothing anchor tag reader

/-- Reads a node unless the next token shows that it is left empty. -/
def readOrEmpty (handles : Handles) :
    Nat → Setting → (Token → Bool) → Reader → Node × Option Reader
  | 0, _, _, _ => (.torn, none)
  | fuel + 1, setting, ends, reader =>
    match reader.tokens with
    | [] => (.torn, none)
    | token :: _ =>
      if ends token then (.empty, some reader) else read handles fuel setting reader

/-- Reads the items of a block sequence to its end. -/
def readItems (handles : Handles) : Nat → Reader → List Node × Option Reader
  | 0, _ => ([.torn], none)
  | fuel + 1, reader =>
    match reader.tokens with
    | .blockEntry :: rest =>
      match readOrEmpty handles fuel ⟨true, false⟩ endsItem (reader.resume rest) with
      | (item, none) => ([item], none)
      | (item, some after) =>
        let (items, after) := readItems handles fuel after
        (item :: items, after)
    | .blockEnd :: rest => ([], some (reader.resume rest))
    | _ => ([.torn], none)

/-- Reads the items of a sequence without indentation of its own; any other token ends it. -/
def readIndentlessItems (handles : Handles) : Nat → Reader → List Node × Option Reader
  | 0, _ => ([.torn], none)
  | fuel + 1, reader =>
    match reader.tokens with
    | .blockEntry :: rest =>
      match readOrEmpty handles fuel ⟨true, false⟩ endsIndentlessItem (reader.resume rest) with
      | (item, none) => ([item], none)
      | (item, some after) =>
        let (items, after) := readIndentlessItems handles fuel after
        (item :: items, after)
    | [] => ([.torn], none)
    | _ => ([], some reader)

/-- Reads the entries of a block mapping to its end. -/
def readEntries (handles : Handles) : Nat → Reader → List (Node × Node) × Option Reader
  | 0, _ => ([(.torn, .torn)], none)
  | fuel + 1, reader =>
    match reader.tokens with
    | .key :: rest =>
      match readOrEmpty handles fuel ⟨true, true⟩ endsBlockField (reader.resume rest) with
      | (key, none) => ([(key, .torn)], none)
      | (key, some after) =>
        match readValue handles fuel ⟨true, true⟩ endsBlockField after with
        | (value, none) => ([(key, value)], none)
        | (value, some after) =>
          let (entries, after) := readEntries handles fuel after
          ((key, value) :: entries, after)
    | .blockEnd :: rest => ([], some (reader.resume rest))
    | _ => ([(.torn, .torn)], none)

/-- Reads the value of an entry; without its colon it is empty. -/
def readValue (handles : Handles) :
    Nat → Setting → (Token → Bool) → Reader → Node × Option Reader
  | 0, _, _, _ => (.torn, none)
  | fuel + 1, setting, ends, reader =>
    match reader.tokens with
    | .value :: rest => readOrEmpty handles fuel setting ends (reader.resume rest)
    | [] => (.torn, none)
    | _ => (.empty, some reader)

/-- Reads the items of a flow sequence to its end. An item with a key is a mapping of one entry. -/
def readFlowItems (handles : Handles) : Nat → (first : Bool) → Reader → List Node × Option Reader
  | 0, _, _ => ([.torn], none)
  | fuel + 1, first, reader =>
    match reader.tokens with
    | .flowSequenceEnd :: rest => ([], some (reader.resume rest))
    | token :: rest =>
      if !first && token != .flowEntry then ([.torn], none)
      else
        let reader := if first then reader else reader.resume rest
        match reader.tokens with
        | .flowSequenceEnd :: rest => ([], some (reader.resume rest))
        | .key :: rest =>
          match readPair handles fuel (reader.resume rest) with
          | (item, none) => ([item], none)
          | (item, some after) =>
            let (items, after) := readFlowItems handles fuel false after
            (item :: items, after)
        | _ =>
          match read handles fuel ⟨false, false⟩ reader with
          | (item, none) => ([item], none)
          | (item, some after) =>
            let (items, after) := readFlowItems handles fuel false after
            (item :: items, after)
    | [] => ([.torn], none)

/-- Reads the pair behind a key token in a flow sequence. Where the key is left empty, the token that
shows it is passed over. -/
def readPair (handles : Handles) : Nat → Reader → Node × Option Reader
  | 0, _ => (.torn, none)
  | fuel + 1, reader =>
    let (key, after) :=
      match reader.tokens with
      | [] => (.torn, none)
      | token :: rest =>
        if endsPairKey token then (.empty, some (reader.resume rest))
        else read handles fuel ⟨false, false⟩ reader
    match after with
    | none => (.mapping none none [(key, .torn)], none)
    | some after =>
      match readValue handles fuel ⟨false, false⟩ endsPairValue after with
      | (value, none) => (.mapping none none [(key, value)], none)
      | (value, some after) =>
        if after.tokens.isEmpty then (.mapping none none [(key, value), (.torn, .torn)], none)
        else (.mapping none none [(key, value)], some after)

/-- Reads the entries of a flow mapping to its end. -/
def readFlowEntries (handles : Handles) :
    Nat → (first : Bool) → Reader → List (Node × Node) × Option Reader
  | 0, _, _ => ([(.torn, .torn)], none)
  | fuel + 1, first, reader =>
    match reader.tokens with
    | .flowMappingEnd :: rest => ([], some (reader.resume rest))
    | token :: rest =>
      if !first && token != .flowEntry then ([(.torn, .torn)], none)
      else
        let reader := if first then reader else reader.resume rest
        match reader.tokens with
        | .flowMappingEnd :: rest => ([], some (reader.resume rest))
        | .key :: rest =>
          match readOrEmpty handles fuel ⟨false, false⟩ endsFlowKey (reader.resume rest) with
          | (key, none) => ([(key, .torn)], none)
          | (key, some after) =>
            match readValue handles fuel ⟨false, false⟩ endsFlowValue after with
            | (value, none) => ([(key, value)], none)
            | (value, some after) =>
              let (entries, after) := readFlowEntries handles fuel false after
              ((key, value) :: entries, after)
        | _ =>
          match read handles fuel ⟨false, false⟩ reader with
          | (key, none) => ([(key, .torn)], none)
          | (key, some after) =>
            if after.tokens.isEmpty then ([(key, .torn)], none)
            else
              let (entries, after) := readFlowEntries handles fuel false after
              ((key, .empty) :: entries, after)
    | [] => ([(.torn, .torn)], none)

end

end Node

namespace Document

/-- The handles that every document knows. -/
def standardHandles : Handles :=
  [("!", [0x21]), ("!!", "tag:yaml.org,2002:".toUTF8.toList)]

/-- Reads the directives in front of a document. A second version, a version other than 1.1 and 1.2,
and a second lead for a handle are refused. -/
def directives? (versioned : Bool) (handles : Handles) : List Token → Option (Handles × List Token)
  | .versionDirective major minor :: rest =>
    if versioned || major != 1 || (minor != 1 && minor != 2) then none
    else directives? true handles rest
  | .tagDirective handle lead :: rest =>
    if (handles.lookup handle).isSome then none
    else directives? versioned (handles ++ [(handle, lead)]) rest
  | rest => some (handles, rest)

/-- Whether a document behind its start marker is left empty before this token. -/
def endsContent : Token → Bool
  | .versionDirective _ _ | .tagDirective _ _ | .documentStart | .documentEnd | .streamEnd => true
  | _ => false

/-- The document of a root and what is behind it. -/
def closing : Node × Option Node.Reader → Document
  | (root, none) => ⟨some root, false⟩
  | (root, some after) =>
    ⟨some root, after.tokens.dropWhile (· == .documentEnd) == [.streamEnd]⟩

/-- Reads the first document. Its fuel is enough, since no token is looked at more than five times
in a row before one is passed. -/
def ofTokens (tokens : List Token) : Document :=
  let fuel := 5 * tokens.length + 5
  match tokens with
  | [.streamEnd] => ⟨none, true⟩
  | [] => ⟨some .torn, false⟩
  | token :: _ =>
    if token != .documentEnd && endsContent token then
      match directives? false [] tokens with
      | some (handles, .documentStart :: rest) =>
        let reader : Node.Reader := ⟨rest, []⟩
        closing (Node.readOrEmpty (handles ++ standardHandles) fuel ⟨true, false⟩ endsContent reader)
      | _ => ⟨some .torn, false⟩
    else closing (Node.read standardHandles fuel ⟨true, false⟩ ⟨tokens, []⟩)

/-- Reads the first document of a text. -/
def ofText (text : List Char) : Document :=
  ofTokens (tokens text)

end Document

end FlowMeter.Yaml
