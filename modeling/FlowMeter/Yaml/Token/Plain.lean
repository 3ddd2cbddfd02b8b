import FlowMeter.Yaml.Char

/-!
# Plain scalars

Between two words of a plain or quoted scalar stand blanks and line breaks. Within a line the blanks are
kept. Across lines they are dropped and the line breaks fold: a single one becomes a space, and of several
the first disappears. A scalar without quotes runs over words and such gaps. It ends before a comment,
before a colon that makes it a key, before an indicator of the flow collection around it, at a document
marker, and at a line that is indented too little.
-/

namespace FlowMeter.Yaml

/-- What stands between two words: blanks within a line, or line breaks. The first break is empty
where an escape has already removed it. -/
inductive Gap where
  | blanks (text : List Char)
  | breaks (first more : List Char)
deriving DecidableEq, Repr

namespace Gap

/-- The gap of nothing. -/
def none : Gap := .blanks []

/-- Whether the gap passes to another line. -/
def crossesLine : Gap → Bool
  | .blanks _ => false
  | .breaks _ _ => true

/-- Adds a blank; beside a line break it leaves no trace. -/
def addBlank (c : Char) : Gap → Gap
  | .blanks text => .blanks (text ++ [c])
  | .breaks first more => .breaks first more

/-- Adds a line break; the blanks before the first one are dropped. -/
def addBreak (b : Char) : Gap → Gap
  | .blanks _ => .breaks [b] []
  | .breaks first more => .breaks first (more ++ [b])

/-- The text that a gap leaves between its two words. -/
def text : Gap → List Char
  | .blanks text => text
  | .breaks first more =>
    if first = ['\n'] then if more = [] then [' '] else more else first ++ more

/-- Reads on through blanks and line breaks. A tab that takes part in the indentation, left of
column `floor` on a later line, is refused. -/
def read? (floor : Nat) : Gap → List Char → Place → Option (Gap × Cursor)
  | gap, '\r' :: '\n' :: rest, place => read? floor (gap.addBreak '\n') rest (place.nextLine ['\r', '\n'])
  | gap, c :: rest, place =>
    match lineBreak? c with
    | some b => read? floor (gap.addBreak b) rest (place.nextLine [c])
    | .none =>
      if isBlank c then
        if gap.crossesLine && place.column < floor && c == '\t' then .none
        else read? floor (gap.addBlank c) rest (place.pass [c])
      else some (gap, ⟨c :: rest, place⟩)
  | gap, [], place => some (gap, ⟨[], place⟩)

end Gap

namespace Plain

/-- Whether an indicator of a flow collection, or a question mark, comes next. -/
def atFlowMark : List Char → Bool
  | [] => false
  | c :: _ => isFlowIndicator c || c == '?'

/-- Splits the longest word off the front. In a flow collection a colon directly before one of its
indicators is refused. -/
def word? (flow : Bool) : List Char → Option (List Char × List Char)
  | [] => some ([], [])
  | c :: rest =>
    if isBlank c || isBreak c then some ([], c :: rest)
    else if flow && c == ':' && atFlowMark rest then none
    else if c == ':' && atGap rest then some ([], c :: rest)
    else if flow && isFlowIndicator c then some ([], c :: rest)
    else (word? flow rest).map fun (word, rest) => (c :: word, rest)

/-- Reads the words that follow a gap, with the gaps in front of them. The answer tells also whether
the scalar was followed by a line break. There are no more words than characters in `bound`. -/
def words? (flow : Bool) (floor : Nat) :
    (bound : List Char) → Gap → Cursor → Option (List Char × Bool × Cursor)
  | [], gap, cursor => some ([], gap.crossesLine, cursor)
  | _ :: bound, gap, cursor =>
    if cursor.place.column = 0 && atDocumentMark cursor.rest then
      some ([], gap.crossesLine, cursor)
    else if cursor.rest.head? = some '#' then some ([], gap.crossesLine, cursor)
    else
      match word? flow cursor.rest with
      | none => none
      | some ([], _) => some ([], gap.crossesLine, cursor)
      | some (word, rest) =>
        match Gap.none.read? floor rest (cursor.place.pass word) with
        | none => none
        | some (next, after) =>
          if !flow && after.place.column < floor then
            some (gap.text ++ word, next.crossesLine, after)
          else
            (words? flow floor bound next after).map fun (text, crossed, after) =>
              (gap.text ++ word ++ text, crossed, after)

/-- Reads a plain scalar: its text, whether a line break followed it, and what is left. -/
def read? (flow : Bool) (floor : Nat) (cursor : Cursor) : Option (List Char × Bool × Cursor) :=
  words? flow floor cursor.rest Gap.none cursor

end Plain

end FlowMeter.Yaml
