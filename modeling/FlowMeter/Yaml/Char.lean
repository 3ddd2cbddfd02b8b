/-!
# Characters of a YAML text

The classes that the rules of YAML name: which characters a text may hold, line breaks, blanks,
the characters of names, and the places where a token has to end. A text is taken in stretches of whole
characters. A character that may not stand in a text makes its whole stretch unreadable, with everything
behind it; the stretches in front of it stay readable.
-/

namespace FlowMeter.Yaml

/-- Whether a character may stand in a YAML text. -/
def isAllowed (c : Char) : Bool :=
  let n := c.toNat
  n == 0x09 || n == 0x0A || n == 0x0D || (0x20 ≤ n && n ≤ 0x7E) || n == 0x85 ||
    (0xA0 ≤ n && n ≤ 0xD7FF) || (0xE000 ≤ n && n ≤ 0xFFFD) || 0x10000 ≤ n

/-- The character that a line break leaves in a text, for a character that breaks a line. -/
def lineBreak? (c : Char) : Option Char :=
  if c == '\n' || c == '\r' || c == '\u0085' then some '\n'
  else if c == '\u2028' || c == '\u2029' then some c
  else none

/-- Whether a character breaks a line. -/
def isBreak (c : Char) : Bool :=
  (lineBreak? c).isSome

/-- Whether a character is a space or a tab. -/
def isBlank (c : Char) : Bool :=
  c == ' ' || c == '\t'

/-- Whether a character may stand in the name of an anchor, a directive or a tag handle. -/
def isNameChar (c : Char) : Bool :=
  c.isAlphanum || c == '_' || c == '-'

/-- Whether a character opens, closes or separates the parts of a flow collection. -/
def isFlowIndicator (c : Char) : Bool :=
  c == ',' || c == '[' || c == ']' || c == '\x7b' || c == '\x7d'

/-- Whether a word has ended: a blank, a line break or the end of the text comes next. -/
def atGap : List Char → Bool
  | [] => true
  | c :: _ => isBlank c || isBreak c

/-- Whether a line has ended: a line break or the end of the text comes next. -/
def atLineEnd : List Char → Bool
  | [] => true
  | c :: _ => isBreak c

/-- Whether the marker that starts or ends a document comes next. -/
def atDocumentMark : List Char → Bool
  | '-' :: '-' :: '-' :: rest => atGap rest
  | '.' :: '.' :: '.' :: rest => atGap rest
  | _ => false

/-- The value of a hexadecimal digit. -/
def hexValue? (c : Char) : Option Nat :=
  if c.isDigit then some (c.toNat - '0'.toNat)
  else if 'a' ≤ c ∧ c ≤ 'f' then some (c.toNat - 'a'.toNat + 10)
  else if 'A' ≤ c ∧ c ≤ 'F' then some (c.toNat - 'A'.toNat + 10)
  else none

/-- A place in a text: the column, the octets in front of it and the line breaks in front of it. -/
structure Place where
  column : Nat
  octets : Nat
  line : Nat
deriving DecidableEq, Repr

/-- The number of octets of a text in UTF-8. -/
def octetCount : List Char → Nat
  | [] => 0
  | c :: rest => c.utf8Size + octetCount rest

/-- Two texts have the octets of both. -/
theorem octetCount_append (s t : List Char) : octetCount (s ++ t) = octetCount s + octetCount t := by
  induction s with
  | nil => simp [octetCount]
  | cons c rest ih => simp [octetCount, ih, Nat.add_assoc]

namespace Place

/-- The first place of a text. -/
def origin : Place := ⟨0, 0, 0⟩

/-- The place behind more text of the same line. -/
def pass (place : Place) (text : List Char) : Place :=
  ⟨place.column + text.length, place.octets + octetCount text, place.line⟩

/-- The start of the next line, behind a line break. -/
def nextLine (place : Place) (lineEnd : List Char) : Place :=
  ⟨0, place.octets + octetCount lineEnd, place.line + 1⟩

/-- Passing nothing leaves the place. -/
theorem pass_nil (place : Place) : place.pass [] = place := rfl

/-- Passing a text and then another passes both. -/
theorem pass_append (place : Place) (s t : List Char) : place.pass (s ++ t) = (place.pass s).pass t := by
  simp [pass, octetCount_append, Nat.add_assoc]

end Place

/-- The unread text and the place that has been reached in it. -/
structure Cursor where
  rest : List Char
  place : Place

namespace Cursor

/-- Passes characters of the same line. -/
def skip (cursor : Cursor) (count : Nat) : Cursor :=
  ⟨cursor.rest.drop count, cursor.place.pass (cursor.rest.take count)⟩

/-- Passes the longest run of characters of a class that holds no line break. -/
def skipWhile (cursor : Cursor) (p : Char → Bool) : Cursor :=
  ⟨cursor.rest.dropWhile p, cursor.place.pass (cursor.rest.takeWhile p)⟩

/-- Passes a line break, if one comes next, and tells what it leaves in a text. -/
def takeBreak (cursor : Cursor) : List Char × Cursor :=
  match cursor.rest with
  | '\r' :: '\n' :: rest => (['\n'], ⟨rest, cursor.place.nextLine ['\r', '\n']⟩)
  | c :: rest =>
    match lineBreak? c with
    | some b => ([b], ⟨rest, cursor.place.nextLine [c]⟩)
    | none => ([], cursor)
  | [] => ([], cursor)

/-- Passes the end of a line: blanks, a comment and the line break; nothing else may be there. -/
def endLine? (cursor : Cursor) : Option Cursor :=
  let cursor := cursor.skipWhile isBlank
  let cursor :=
    match cursor.rest with
    | '#' :: _ => cursor.skipWhile (!isBreak ·)
    | _ => cursor
  if atLineEnd cursor.rest then some cursor.takeBreak.2 else none

end Cursor

/-- The most octets that a stretch holds. -/
def stretchLimit : Nat := 16384

/-- The number of readable characters. `before` is the number of characters in front of the present
stretch, `inside` the number of those read of it, and `octets` their size. -/
def readableCount (before inside octets : Nat) : List Char → Nat
  | [] => before + inside
  | c :: rest =>
    if octets + c.utf8Size ≤ stretchLimit then
      if isAllowed c then readableCount before (inside + 1) (octets + c.utf8Size) rest else before
    else if isAllowed c then readableCount (before + inside) 1 c.utf8Size rest
    else before + inside

/-- The readable part of a text. -/
def readable (text : List Char) : List Char :=
  text.take (readableCount 0 0 0 text)

/-- All characters are readable where each of them may stand in a text. -/
theorem readableCount_of_all_isAllowed {text : List Char} (before inside octets : Nat)
    (h : text.all isAllowed = true) :
    readableCount before inside octets text = before + inside + text.length := by
  induction text generalizing before inside octets with
  | nil => rfl
  | cons c rest ih =>
    rw [List.all_cons, Bool.and_eq_true] at h
    rw [readableCount, List.length_cons]
    simp only [h.1, if_true]
    split
    · rw [ih _ _ _ h.2]
      omega
    · rw [ih _ _ _ h.2]
      omega

/-- A text of characters that may stand in it is readable to its end. -/
theorem readable_of_all_isAllowed {text : List Char} (h : text.all isAllowed = true) :
    readable text = text := by
  rw [readable, readableCount_of_all_isAllowed 0 0 0 h]
  simp

end FlowMeter.Yaml
