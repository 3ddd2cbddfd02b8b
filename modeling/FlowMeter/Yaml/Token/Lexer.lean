import FlowMeter.Yaml.Char
import FlowMeter.Yaml.Token.Plain
import FlowMeter.Yaml.Token.Quoted
import FlowMeter.Yaml.Token.Block
import FlowMeter.Yaml.Token.Name

/-!
# Reading a YAML text as tokens

The lexer keeps the columns of the open block collections and, for every level of flow collection,
the last token that a colon may still turn into a mapping key. A token that may still become a key
is withheld from the reader of tokens, so a fault in the text behind it hides it too: `tokens` gives
exactly the tokens that are certain before the first fault.
-/

namespace FlowMeter.Yaml

/-- A token that may become a mapping key: the number of tokens before it, its place, and whether
the indentation demands that it does. -/
structure Candidate where
  before : Nat
  place : Place
  required : Bool
deriving DecidableEq, Repr

/-- A key stands on one line and ends within 1024 octets. -/
def Candidate.isStale (candidate : Candidate) (place : Place) : Bool :=
  candidate.place.line < place.line || candidate.place.octets + 1024 < place.octets

/-- The tokens that have been read, latest first, with their number. -/
structure Output where
  latest : List Token
  count : Nat
  count_eq : count = latest.length

namespace Output

/-- No tokens. -/
def empty : Output := ⟨[], 0, rfl⟩

/-- The tokens in the order of the text. -/
def toList (output : Output) : List Token :=
  output.latest.reverse

/-- Adds a token. -/
def push (output : Output) (token : Token) : Output :=
  ⟨token :: output.latest, output.count + 1, by simp [output.count_eq]⟩

/-- Adds a token behind the first ones. -/
def insert (output : Output) (before : Nat) (token : Token) : Output :=
  let later := output.count - before
  ⟨output.latest.take later ++ token :: output.latest.drop later, output.count + 1, by
    have := output.count_eq
    simp
    omega⟩

/-- A token that is read comes last. -/
theorem toList_push (output : Output) (token : Token) :
    (output.push token).toList = output.toList ++ [token] := by
  simp [toList, push]

/-- A token that is inserted stands behind so many others. -/
theorem toList_insert (output : Output) (before : Nat) (token : Token)
    (h : before ≤ output.count) :
    (output.insert before token).toList =
      output.toList.take before ++ token :: output.toList.drop before := by
  have hsub : output.count - (output.count - before) = before := by omega
  simp [toList, insert, List.reverse_take, List.reverse_drop, ← output.count_eq, hsub]

end Output

/-- The state of the lexer. Columns and levels are kept innermost first; the outermost level is the
block context. -/
structure Lexer where
  cursor : Cursor
  output : Output
  columns : List Nat
  keyAllowed : Bool
  candidate : Option Candidate
  outer : List (Option Candidate)
  ended : Bool

namespace Lexer

/-- The state at the start of a text. -/
def start (text : List Char) : Lexer where
  cursor := ⟨text, Place.origin⟩
  output := .empty
  columns := []
  keyAllowed := true
  candidate := none
  outer := []
  ended := false

/-- Whether a flow collection is open. -/
def inFlow (lexer : Lexer) : Bool :=
  !lexer.outer.isEmpty

/-- One more than the column of the innermost block collection. -/
def floor (lexer : Lexer) : Nat :=
  match lexer.columns with
  | [] => 0
  | column :: _ => column + 1

/-- The place that has been reached. -/
def place (lexer : Lexer) : Place :=
  lexer.cursor.place

/-- Adds a token. -/
def emit (lexer : Lexer) (token : Token) : Lexer :=
  { lexer with output := lexer.output.push token }

/-- Adds a token behind the first ones. -/
def emitAt (lexer : Lexer) (before : Nat) (token : Token) : Lexer :=
  { lexer with output := lexer.output.insert before token }

/-- Adds a token that is so many characters long. -/
def emitMark (lexer : Lexer) (token : Token) (length : Nat) : Lexer :=
  { lexer.emit token with cursor := lexer.cursor.skip length }

/-- Drops a stale candidate; one that had to become a key is a fault. -/
def keepFresh? (place : Place) : Option Candidate → Option (Option Candidate)
  | none => some none
  | some candidate =>
    if candidate.isStale place then if candidate.required then none else some none
    else some (some candidate)

/-- Drops the stale candidates of all levels. -/
def dropStale? (lexer : Lexer) : Option Lexer := do
  let outer ← lexer.outer.mapM (keepFresh? lexer.place)
  let candidate ← keepFresh? lexer.place lexer.candidate
  return { lexer with candidate, outer }

/-- Gives up the candidate of the innermost level; one that had to become a key is a fault. -/
def dropCandidate? (lexer : Lexer) : Option Lexer :=
  if lexer.candidate.any (·.required) then none else some { lexer with candidate := none }

/-- Notes the next token as a candidate, if a key is allowed here. -/
def noteCandidate? (lexer : Lexer) : Option Lexer :=
  if lexer.keyAllowed then
    let required := !lexer.inFlow && lexer.floor = lexer.place.column + 1
    lexer.dropCandidate?.map fun lexer =>
      { lexer with candidate := some ⟨lexer.output.count, lexer.place, required⟩ }
  else some lexer

/-- Opens a block collection at a column right of the innermost one, behind so many tokens. -/
def openBlock (lexer : Lexer) (column before : Nat) (token : Token) : Lexer :=
  if lexer.inFlow || column < lexer.floor then lexer
  else { lexer.emitAt before token with columns := column :: lexer.columns }

/-- Closes block collections for as long as a condition on the column holds. -/
def closeWhile (p : Nat → Bool) : List Nat → Output → List Nat × Output
  | column :: columns, output =>
    if p column then closeWhile p columns (output.push .blockEnd) else (column :: columns, output)
  | [], output => ([], output)

/-- Closes the block collections whose column satisfies a condition; in a flow collection none. -/
def closeBlocks (lexer : Lexer) (p : Nat → Bool) : Lexer :=
  if lexer.inFlow then lexer
  else
    let (columns, output) := closeWhile p lexer.columns lexer.output
    { lexer with columns, output }

/-- Passes blanks, comments and line breaks, and a byte order mark at the start of a line. Where a key
may follow, tabs are no blanks. In the block context a line break allows a key. -/
def skipGaps (inFlow : Bool) : (comment keyAllowed : Bool) → List Char → Place → Bool × Cursor
  | _, keyAllowed, '\r' :: '\n' :: rest, place =>
    skipGaps inFlow false (keyAllowed || !inFlow) rest (place.nextLine ['\r', '\n'])
  | comment, keyAllowed, c :: rest, place =>
    if isBreak c then skipGaps inFlow false (keyAllowed || !inFlow) rest (place.nextLine [c])
    else if comment || c == ' ' || (c == '\t' && (inFlow || !keyAllowed)) ||
        (c == '\uFEFF' && place.column == 0) then
      skipGaps inFlow comment keyAllowed rest (place.pass [c])
    else if c == '#' then skipGaps inFlow true keyAllowed rest (place.pass [c])
    else (keyAllowed, ⟨c :: rest, place⟩)
  | _, keyAllowed, [], place => (keyAllowed, ⟨[], place⟩)

/-- Goes on to the next token. -/
def toNextToken (lexer : Lexer) : Lexer :=
  let (keyAllowed, cursor) :=
    skipGaps lexer.inFlow false lexer.keyAllowed lexer.cursor.rest lexer.cursor.place
  { lexer with keyAllowed, cursor }

/-- Ends the text. -/
def endText? (lexer : Lexer) : Option Lexer := do
  let lexer ← (lexer.closeBlocks fun _ => true).dropCandidate?
  return { lexer.emit .streamEnd with ended := true }

/-- Reads a directive. -/
def directive? (lexer : Lexer) : Option Lexer := do
  let lexer ← (lexer.closeBlocks fun _ => true).dropCandidate?
  let (token, cursor) ← Name.directive? lexer.cursor
  return { lexer.emit token with keyAllowed := false, cursor }

/-- Reads the marker that starts or ends a document. -/
def documentMark? (lexer : Lexer) (token : Token) : Option Lexer := do
  let lexer ← (lexer.closeBlocks fun _ => true).dropCandidate?
  return { lexer.emitMark token 3 with keyAllowed := false }

/-- Opens a flow collection. -/
def openFlow? (lexer : Lexer) (token : Token) : Option Lexer := do
  let lexer ← lexer.noteCandidate?
  let opened := lexer.emitMark token 1
  return { opened with keyAllowed := true, outer := lexer.candidate :: lexer.outer, candidate := none }

/-- Closes a flow collection; where none is open, the level stays. -/
def closeFlow? (lexer : Lexer) (token : Token) : Option Lexer := do
  let lexer ← lexer.dropCandidate?
  let closed := { lexer.emitMark token 1 with keyAllowed := false }
  match lexer.outer with
  | [] => return closed
  | candidate :: outer => return { closed with candidate, outer }

/-- Reads the comma of a flow collection. -/
def flowEntry? (lexer : Lexer) : Option Lexer := do
  let lexer ← lexer.dropCandidate?
  return { lexer.emitMark .flowEntry 1 with keyAllowed := true }

/-- Opens a block collection at the next token, where one may start. -/
def openHere? (lexer : Lexer) (token : Token) : Option Lexer :=
  if lexer.inFlow then some lexer
  else if lexer.keyAllowed then
    some (lexer.openBlock lexer.place.column lexer.output.count token)
  else none

/-- Reads the dash of an item. -/
def blockEntry? (lexer : Lexer) : Option Lexer := do
  let lexer ← lexer.openHere? .blockSequenceStart
  let lexer ← lexer.dropCandidate?
  return { lexer.emitMark .blockEntry 1 with keyAllowed := true }

/-- Reads the question mark of a key. -/
def key? (lexer : Lexer) : Option Lexer := do
  let lexer ← lexer.openHere? .blockMappingStart
  let lexer ← lexer.dropCandidate?
  return { lexer.emitMark .key 1 with keyAllowed := !lexer.inFlow }

/-- Reads the colon of a value. The candidate of the level, if there is one, becomes the key. -/
def value? (lexer : Lexer) : Option Lexer :=
  match lexer.candidate with
  | some candidate =>
    let lexer := lexer.emitAt candidate.before .key
    let lexer := lexer.openBlock candidate.place.column candidate.before .blockMappingStart
    some { lexer.emitMark .value 1 with keyAllowed := false, candidate := none }
  | none =>
    (lexer.openHere? .blockMappingStart).map fun lexer =>
      { lexer.emitMark .value 1 with keyAllowed := !lexer.inFlow }

/-- Reads an anchor or an alias. -/
def anchor? (lexer : Lexer) (token : String → Token) : Option Lexer := do
  let lexer ← lexer.noteCandidate?
  let (name, cursor) ← Name.anchor? lexer.cursor
  return { lexer.emit (token name) with keyAllowed := false, cursor }

/-- Reads a tag. -/
def tag? (lexer : Lexer) : Option Lexer := do
  let lexer ← lexer.noteCandidate?
  let (token, cursor) ← Name.tag? lexer.inFlow lexer.cursor
  return { lexer.emit token with keyAllowed := false, cursor }

/-- Reads a block scalar. -/
def blockScalar? (lexer : Lexer) (style : Style) : Option Lexer := do
  let lexer ← lexer.dropCandidate?
  let (text, cursor) ← Block.read? (style = .folded) lexer.floor lexer.cursor
  return { lexer.emit (.scalar style (String.ofList text)) with keyAllowed := true, cursor }

/-- Reads a quoted scalar. -/
def quotedScalar? (lexer : Lexer) (quote : Quoted.Quote) : Option Lexer := do
  let lexer ← lexer.noteCandidate?
  let (text, cursor) ← Quoted.read? quote lexer.cursor
  return { lexer.emit (.scalar .quoted (String.ofList text)) with keyAllowed := false, cursor }

/-- Reads a plain scalar. A line break behind it allows a key. -/
def plainScalar? (lexer : Lexer) : Option Lexer := do
  let lexer ← lexer.noteCandidate?
  let (text, crossed, cursor) ← Plain.read? lexer.inFlow lexer.floor lexer.cursor
  return { lexer.emit (.scalar .plain (String.ofList text)) with keyAllowed := crossed, cursor }

/-- The characters that start no plain scalar. -/
def isIndicator (c : Char) : Bool :=
  "-?:,[]\x7b\x7d#&*!|>'\"%@\x60".toList.contains c

/-- Whether a plain scalar starts with these characters. -/
def startsPlain (inFlow : Bool) : List Char → Bool
  | [] => false
  | c :: rest =>
    !(isBlank c || isBreak c || isIndicator c) ||
      (c == '-' && !rest.head?.any isBlank) ||
      (!inFlow && (c == '?' || c == ':') && !atGap rest)

/-- Reads the token that comes next. -/
def readToken? (lexer : Lexer) : Option Lexer :=
  let start := lexer.place.column == 0
  match lexer.cursor.rest with
  | [] => lexer.endText?
  | c :: rest =>
    if start && c == '%' then lexer.directive?
    else if start && atDocumentMark (c :: rest) then
      lexer.documentMark? (if c == '-' then .documentStart else .documentEnd)
    else if c == '[' then lexer.openFlow? .flowSequenceStart
    else if c == '\x7b' then lexer.openFlow? .flowMappingStart
    else if c == ']' then lexer.closeFlow? .flowSequenceEnd
    else if c == '\x7d' then lexer.closeFlow? .flowMappingEnd
    else if c == ',' then lexer.flowEntry?
    else if c == '-' && atGap rest then lexer.blockEntry?
    else if c == '?' && (lexer.inFlow || atGap rest) then lexer.key?
    else if c == ':' && (lexer.inFlow || atGap rest) then lexer.value?
    else if c == '*' then lexer.anchor? .alias
    else if c == '&' then lexer.anchor? .anchor
    else if c == '!' then lexer.tag?
    else if c == '|' && !lexer.inFlow then lexer.blockScalar? .literal
    else if c == '>' && !lexer.inFlow then lexer.blockScalar? .folded
    else if c == '\'' then lexer.quotedScalar? .single
    else if c == '"' then lexer.quotedScalar? .double
    else if startsPlain lexer.inFlow (c :: rest) then lexer.plainScalar?
    else none

/-- Goes on to the next token and reads it. -/
def step? (lexer : Lexer) : Option Lexer := do
  let lexer ← lexer.toNextToken.dropStale?
  let lexer ← (lexer.closeBlocks (lexer.place.column < ·)).readToken?
  lexer.dropStale?

/-- The tokens that are certain: those before the first candidate. -/
def certain (lexer : Lexer) : List Token :=
  let candidates := (lexer.candidate :: lexer.outer).filterMap id
  let count := candidates.foldl (fun n candidate => min n candidate.before) lexer.output.count
  lexer.output.toList.take count

/-- Reads tokens up to the end of the text or to the first fault. Where the text is only the readable
part of another one, a token that reaches its end is lost. -/
def run (part : Bool) : Nat → Lexer → List Token
  | 0, lexer => lexer.certain
  | fuel + 1, lexer =>
    match lexer.step? with
    | none => lexer.certain
    | some next =>
      if part && next.cursor.rest.isEmpty then lexer.certain
      else if next.ended then next.output.toList
      else run part fuel next

end Lexer

/-- The tokens of a text. They end with the end of the stream exactly if the text has no fault. -/
def tokens (text : List Char) : List Token :=
  let part := readable text
  (Lexer.start part).run (part.length < text.length) (part.length + 1)

end FlowMeter.Yaml
