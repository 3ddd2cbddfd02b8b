import FlowMeter.Yaml.Token.Plain

/-!
# Quoted scalars

A scalar in single quotes spells a quote by two of them. A scalar in double quotes has escapes, of
which one removes the line break after it. Both fold line breaks as plain scalars do.
-/

namespace FlowMeter.Yaml.Quoted

/-- The two kinds of quotes. -/
inductive Quote where
  | single
  | double
deriving DecidableEq, Repr

/-- The character of a quote. -/
def Quote.char : Quote → Char
  | .single => '\''
  | .double => '"'

/-- The character that a one-letter escape stands for. -/
def escape? : Char → Option Char
  | '0' => some '\x00'
  | 'a' => some '\x07'
  | 'b' => some '\x08'
  | 't' => some '\t'
  | '\t' => some '\t'
  | 'n' => some '\n'
  | 'v' => some '\x0b'
  | 'f' => some '\x0c'
  | 'r' => some '\r'
  | 'e' => some '\x1b'
  | ' ' => some ' '
  | '"' => some '"'
  | '/' => some '/'
  | '\\' => some '\\'
  | 'N' => some '\u0085'
  | '_' => some '\u00a0'
  | 'L' => some '\u2028'
  | 'P' => some '\u2029'
  | _ => none

/-- The number of digits that a numeric escape has. -/
def escapeWidth? : Char → Option Nat
  | 'x' => some 2
  | 'u' => some 4
  | 'U' => some 8
  | _ => none

/-- The character of a code point, unless it is no scalar value. -/
def scalarValue? (n : Nat) : Option Char :=
  if n.isValidChar then some (Char.ofNat n) else none

/-- A word and what is left behind it. An escaped line break ends the word early. -/
structure Piece where
  text : List Char
  joined : Bool
  after : Cursor

/-- Puts a character in front of a piece. -/
def Piece.cons (c : Char) (piece : Piece) : Piece :=
  { piece with text := c :: piece.text }

/-- Splits a word of a single-quoted scalar off the front. -/
def singleWord : List Char → Place → Piece
  | '\'' :: '\'' :: rest, place => (singleWord rest (place.pass ['\'', '\''])).cons '\''
  | c :: rest, place =>
    if isBlank c || isBreak c || c == '\'' then ⟨[], false, ⟨c :: rest, place⟩⟩
    else (singleWord rest (place.pass [c])).cons c
  | [], place => ⟨[], false, ⟨[], place⟩⟩

/-- Reads on in a numeric escape that lacks so many digits, or splits a word of a double-quoted
scalar off the front where none is lacking. -/
def doubleWord? : (lacking value : Nat) → List Char → Place → Option Piece
  | lacking + 1, value, c :: rest, place =>
    match hexValue? c with
    | none => none
    | some digit =>
      let value := value * 16 + digit
      if lacking = 0 then
        match scalarValue? value with
        | none => none
        | some spelled => (doubleWord? 0 0 rest (place.pass [c])).map (·.cons spelled)
      else doubleWord? lacking value rest (place.pass [c])
  | _ + 1, _, [], _ => none
  | 0, _, '\\' :: c :: rest, place =>
    if isBreak c then some ⟨[], true, c :: rest, place.pass ['\\']⟩
    else
      match escape? c, escapeWidth? c with
      | some e, _ => (doubleWord? 0 0 rest (place.pass ['\\', c])).map (·.cons e)
      | none, some width => doubleWord? width 0 rest (place.pass ['\\', c])
      | none, none => none
  | 0, _, c :: rest, place =>
    if isBlank c || isBreak c || c == '"' then some ⟨[], false, ⟨c :: rest, place⟩⟩
    else if c == '\\' then none
    else (doubleWord? 0 0 rest (place.pass [c])).map (·.cons c)
  | 0, _, [], place => some ⟨[], false, ⟨[], place⟩⟩

/-- Splits a word off the front. -/
def word? : Quote → Cursor → Option Piece
  | .single, cursor => some (singleWord cursor.rest cursor.place)
  | .double, cursor => doubleWord? 0 0 cursor.rest cursor.place

/-- Reads words and gaps up to the closing quote. There are no more words than characters in
`bound`. -/
def words? (quote : Quote) : (bound : List Char) → Cursor → Option (List Char × Cursor)
  | [], _ => none
  | _ :: bound, cursor =>
    if (cursor.place.column = 0 && atDocumentMark cursor.rest) || cursor.rest.isEmpty then none
    else
      match word? quote cursor with
      | none => none
      | some piece =>
        if !piece.joined && piece.after.rest.head? = some quote.char then
          some (piece.text, piece.after.skip 1)
        else
          let start : Gap × Cursor :=
            if piece.joined then (.breaks [] [], piece.after.takeBreak.2) else (.none, piece.after)
          match start.1.read? 0 start.2.rest start.2.place with
          | none => none
          | some (gap, after) =>
            (words? quote bound after).map fun (text, after) =>
              (piece.text ++ gap.text ++ text, after)

/-- Reads a quoted scalar from its opening quote: its text and what is left. -/
def read? (quote : Quote) (cursor : Cursor) : Option (List Char × Cursor) :=
  words? quote cursor.rest (cursor.skip 1)

end FlowMeter.Yaml.Quoted
