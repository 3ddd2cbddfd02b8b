import FlowMeter.Address.Basic
import FlowMeter.Decimal

/-!
# The text of addresses

The short form is four decimal numbers with dots. The long form is groups in hexadecimal digits with
colons, of which the first longest row of at least two zero groups is left out; a long address that
stands for a short one ends in its text. Text with a dot is read as the short form, other text as the
long form, and malformed text as the unspecified address of its form.
-/

namespace FlowMeter.Address

/-- The text of four octets. -/
def text4 (octets : Vector UInt8 4) : List Char :=
  ['.'].intercalate (octets.toList.map fun octet => Nat.toDigits 10 octet.toNat)

/-- The text of some groups. -/
def textGroups (groups : List UInt16) : List Char :=
  [':'].intercalate (groups.map fun group => Nat.toDigits 16 group.toNat)

/-- The number of zero groups at the front. -/
def zeroRun (groups : List UInt16) : Nat :=
  (groups.takeWhile (· == 0)).length

/-- Where the longest row of zero groups starts, the first of several. -/
def longestRun (groups : List UInt16) : Nat :=
  (List.range groups.length).foldl
    (fun best i => if zeroRun (groups.drop best) < zeroRun (groups.drop i) then i else best) 0

/-- The text of groups in which the longest row of zeros is left out. -/
def textCompressed (groups : List UInt16) : List Char :=
  let start := longestRun groups
  let count := zeroRun (groups.drop start)
  if 2 ≤ count then
    textGroups (groups.take start) ++ [':', ':'] ++ textGroups (groups.drop (start + count))
  else textGroups groups

/-- The short address that a long one stands for. -/
def mapped? (groups : Vector UInt16 8) : Option (Vector UInt8 4) :=
  if groups.toList.take 6 = [0, 0, 0, 0, 0, 0xffff] then
    let octets := (groups.toList.drop 6).flatMap groupBytes
    some (Vector.ofFn fun i => octets.getD i 0)
  else none

/-- The text of an address, as characters. -/
def chars : Address → List Char
  | .v4 octets => text4 octets
  | .v6 groups =>
    match mapped? groups with
    | some octets => "::ffff:".toList ++ text4 octets
    | none => textCompressed groups.toList

/-- The text of an address. -/
def text (address : Address) : String :=
  String.ofList address.chars

/-- Reads an octet of at most three digits without a needless zero. -/
def octet? (digits : List Char) : Option UInt8 :=
  if 3 < digits.length || (1 < digits.length && digits.head? = some '0') then none
  else ((Decimal.read? 10 digits).filter (· < 256)).map (·.toUInt8)

/-- Reads so many octets with a dot behind each, and one more that ends the text. -/
def octets? : Nat → List Char → Option (List UInt8)
  | 0, text => (octet? text).map ([·])
  | count + 1, text =>
    match octet? (text.takeWhile Char.isDigit), text.dropWhile Char.isDigit with
    | some octet, '.' :: rest => (octets? count rest).map (octet :: ·)
    | _, _ => none

/-- Reads the short form. -/
def read4? (text : List Char) : Option Address :=
  (octets? 3 text).map fun octets => .v4 (Vector.ofFn fun i => octets.getD i 0)

/-- Whether a character is a hexadecimal digit. -/
def isHexDigit (c : Char) : Bool :=
  (Decimal.digitValue? 16 c).isSome

/-- Takes a group of at most four digits off the front. -/
def takeGroup? (text : List Char) : Option (UInt16 × List Char) :=
  let digits := text.takeWhile isHexDigit
  if 4 < digits.length then none
  else (Decimal.read? 16 digits).map fun n => (n.toUInt16, text.drop digits.length)

/-- Takes at most so many groups off the front, with a colon before each but the first. -/
def takeGroups : (count : Nat) → (first : Bool) → List Char → List UInt16 × List Char
  | 0, _, text => ([], text)
  | count + 1, first, text =>
    let behind :=
      match first, text with
      | true, text => some text
      | false, ':' :: rest => some rest
      | false, _ => none
    match behind.bind takeGroup? with
    | none => ([], text)
    | some (group, rest) =>
      let (groups, rest) := takeGroups count false rest
      (group :: groups, rest)

/-- The address of eight groups. -/
def ofGroups (groups : List UInt16) : Address :=
  .v6 (Vector.ofFn fun i => groups.getD i 0)

/-- Reads the long form: eight groups, or fewer around two colons, which stand for at least one. -/
def read6? (text : List Char) : Option Address :=
  let (front, rest) := takeGroups 8 true text
  if front.length = 8 then if rest.isEmpty then some (ofGroups front) else none
  else
    match rest with
    | ':' :: ':' :: rest =>
      let (back, rest) := takeGroups (7 - front.length) true rest
      if rest.isEmpty then
        some (ofGroups (front ++ List.replicate (8 - front.length - back.length) 0 ++ back))
      else none
    | _ => none

/-- The address that a text stands for. -/
def ofText (text : String) : Address :=
  if text.toList.contains '.' then (read4? text.toList).getD zero4
  else (read6? text.toList).getD zero6

end FlowMeter.Address
