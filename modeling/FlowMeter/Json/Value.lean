/-!
# JSON values

Values made of texts, numbers, lists and objects, and their compact text. Only quotes, backslashes and
control characters are escaped.
-/

namespace FlowMeter.Json

/-- A value. The members of an object keep their order. -/
inductive Value where
  | string (text : String)
  | number (n : Nat)
  | array (items : List Value)
  | object (members : List (String × Value))
deriving Repr

/-- A hexadecimal digit in lower case. -/
def hexDigit (n : Nat) : Char := Nat.digitChar n

/-- The text of a character within a string. -/
def escapeChar (c : Char) : List Char :=
  if c == '"' then ['\\', '"']
  else if c == '\\' then ['\\', '\\']
  else if c == '\x08' then ['\\', 'b']
  else if c == '\t' then ['\\', 't']
  else if c == '\n' then ['\\', 'n']
  else if c == '\x0c' then ['\\', 'f']
  else if c == '\r' then ['\\', 'r']
  else if c.toNat < 0x20 then
    ['\\', 'u', '0', '0', hexDigit (c.toNat / 16), hexDigit (c.toNat % 16)]
  else [c]

/-- The text of a string. -/
def quote (text : String) : List Char :=
  '"' :: text.toList.flatMap escapeChar ++ ['"']

namespace Value

mutual

/-- The compact text of a value, as characters. -/
def chars : Value → List Char
  | .string text => quote text
  | .number n => Nat.toDigits 10 n
  | .array items => '[' :: itemChars items ++ [']']
  | .object members => '\x7b' :: memberChars members ++ ['\x7d']

/-- The texts of items, with commas between them. -/
def itemChars : List Value → List Char
  | [] => []
  | [item] => chars item
  | item :: items => chars item ++ ',' :: itemChars items

/-- The texts of members, with commas between them. -/
def memberChars : List (String × Value) → List Char
  | [] => []
  | [(name, value)] => quote name ++ ':' :: chars value
  | (name, value) :: members => quote name ++ ':' :: chars value ++ ',' :: memberChars members

end

/-- The compact text of a value. -/
def text (value : Value) : String :=
  String.ofList value.chars

end Value

end FlowMeter.Json
