import FlowMeter.Decimal

/-!
# What a plain scalar stands for

The text of a plain scalar may spell null, a truth value, a whole number or a number with places;
any other text spells itself. A number in base ten with a leading zero is no number.
-/

namespace FlowMeter.Yaml.Scalar

/-- Whether a text spells null. -/
def isNull (text : List Char) : Bool :=
  text == "null".toList || text == "Null".toList || text == "NULL".toList || text == ['~']

/-- The truth value that a text spells. -/
def bool? (text : List Char) : Option Bool :=
  if text == "true".toList || text == "True".toList || text == "TRUE".toList then some true
  else if text == "false".toList || text == "False".toList || text == "FALSE".toList then some false
  else none

/-- Takes a sign off the front. -/
def withoutSign : List Char → List Char
  | '+' :: rest => rest
  | '-' :: rest => rest
  | text => text

/-- Whether a text is a row of digits, perhaps with a sign, that starts with a needless zero. -/
def hasLeadingZero (text : List Char) : Bool :=
  match withoutSign text with
  | '0' :: c :: rest => (c :: rest).all Char.isDigit
  | _ => false

/-- The number that a text without sign spells, in base ten or behind the mark of another base. -/
def magnitude? : List Char → Option Nat
  | '0' :: 'x' :: rest => Decimal.read? 16 rest
  | '0' :: 'o' :: rest => Decimal.read? 8 rest
  | '0' :: 'b' :: rest => Decimal.read? 2 rest
  | text => if hasLeadingZero text then none else Decimal.read? 10 text

/-- The number that a text without minus sign spells. -/
def unsigned? : List Char → Option Nat
  | '+' :: rest => magnitude? rest
  | text => magnitude? text

/-- The whole number that a text spells, of at most 128 bits. -/
def int? (text : List Char) : Option Int :=
  match text with
  | '-' :: rest =>
    ((magnitude? rest).filter (· ≤ 1 <<< 127)).map fun n => -(n : Int)
  | _ => ((unsigned? text).filter (· < 1 <<< 128)).map fun n => (n : Int)

/-- Reads the exponent of a number. -/
def exponent? : List Char → Option Int
  | [] => some 0
  | c :: rest =>
    if c == 'e' || c == 'E' then
      match rest with
      | '-' :: digits => (Decimal.read? 10 digits).map fun n => -(n : Int)
      | '+' :: digits => (Decimal.read? 10 digits).map fun n => (n : Int)
      | digits => (Decimal.read? 10 digits).map fun n => (n : Int)
    else none

/-- Reads a number with places and exponent: at least one digit, and at most one point. -/
def decimal? (negative : Bool) (text : List Char) : Option Decimal.Binary64 := do
  let whole := text.takeWhile Char.isDigit
  let rest := text.dropWhile Char.isDigit
  let (places, rest) :=
    match rest with
    | '.' :: rest => (rest.takeWhile Char.isDigit, rest.dropWhile Char.isDigit)
    | rest => ([], rest)
  let digits ← Decimal.read? 10 (whole ++ places)
  let exponent ← exponent? rest
  Decimal.Binary64.ofDecimal? negative digits (exponent - places.length)

/-- The finite number that a text with at most one sign spells. -/
def finite? : List Char → Option Decimal.Binary64
  | '-' :: rest => decimal? true rest
  | '+' :: rest => decimal? false rest
  | text => decimal? false text

/-- The number with places that a text spells, the infinite ones and the one that is no number
included. -/
def float? (text : List Char) : Option Decimal.Binary64 :=
  let positive := [".inf".toList, ".Inf".toList, ".INF".toList]
  if positive.contains text || positive.any fun t => '+' :: t == text then some (.infinite false)
  else if positive.any fun t => '-' :: t == text then some (.infinite true)
  else if [".nan".toList, ".NaN".toList, ".NAN".toList].contains text then some .notANumber
  else finite? text

/-- What a plain scalar stands for. -/
inductive Value where
  | null
  | bool (value : Bool)
  | int (value : Int)
  | float (value : Decimal.Binary64)
  | text
deriving Repr

/-- What the text of a plain scalar stands for; the empty text stands for null. -/
def resolve (text : List Char) : Value :=
  if text.isEmpty || isNull text then .null
  else
    match bool? text, int? text with
    | some value, _ => .bool value
    | none, some value => .int value
    | none, none =>
      if hasLeadingZero text then .text
      else
        match float? text with
        | some value => .float value
        | none => .text

end FlowMeter.Yaml.Scalar
