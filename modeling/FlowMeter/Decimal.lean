/-!
# Decimal numbers

Numbers are read from digits in a base, and written with a least number of digits. A finite number of the
64-bit binary format is a whole number of at most 53 bits times a power of two: its bits are taken apart,
and a decimal number is rounded to the nearest of them, a tie going to the one whose last bit is zero. Of
the decimals that round to a given binary number, one with the fewest digits is chosen, and of those the
nearest one, where a tie goes up; it is written without an exponent.
-/

namespace FlowMeter.Decimal

/-- The value of a digit; letters of either case are digits from ten on. -/
def digitValue? (base : Nat) (c : Char) : Option Nat :=
  let value :=
    if c.isDigit then some (c.toNat - '0'.toNat)
    else if c.isLower then some (c.toNat - 'a'.toNat + 10)
    else if c.isUpper then some (c.toNat - 'A'.toNat + 10)
    else none
  value.filter (· < base)

/-- Reads on, with the value of the digits so far; every character has to be a digit. -/
def readDigits? (base : Nat) : Nat → List Char → Option Nat
  | value, [] => some value
  | value, c :: rest =>
    match digitValue? base c with
    | some digit => readDigits? base (value * base + digit) rest
    | none => none

/-- Reads a number of at least one digit. -/
def read? (base : Nat) (text : List Char) : Option Nat :=
  if text.isEmpty then none else readDigits? base 0 text

/-- Writes a number in base ten with at least so many digits. -/
def padded (width n : Nat) : List Char :=
  let digits := Nat.toDigits 10 n
  List.replicate (width - digits.length) '0' ++ digits

/-- Reading digits behind others goes on with the value of these. -/
theorem readDigits?_append (base value : Nat) (s t : List Char) :
    readDigits? base value (s ++ t) = (readDigits? base value s).bind (readDigits? base · t) := by
  induction s generalizing value with
  | nil => rfl
  | cons c s ih =>
    simp only [List.cons_append, readDigits?]
    cases digitValue? base c with
    | none => rfl
    | some digit => exact ih _

/-- A number of the format: `finite negative m q` is `m * 2 ^ q` with a sign. -/
inductive Binary64 where
  | finite (negative : Bool) (mantissa : Nat) (exponent : Int)
  | infinite (negative : Bool)
  | notANumber
deriving DecidableEq, Repr

namespace Binary64

/-- The least exponent, at which the mantissa may have fewer than 53 bits. -/
def leastExponent : Int := -1074

/-- Takes the bits of a number apart. -/
def ofBits (bits : UInt64) : Binary64 :=
  let n : Nat := bits.toNat
  let negative := 1 <<< 63 ≤ n
  let field : Nat := (n >>> 52) % (1 <<< 11)
  let fraction := n % (1 <<< 52)
  if field = (1 <<< 11) - 1 then if fraction = 0 then .infinite negative else .notANumber
  else if field = 0 then .finite negative fraction leastExponent
  else .finite negative ((1 <<< 52) + fraction) (leastExponent + field - 1)

/-- Multiplies a fraction by a power of a base. -/
def scale (base : Nat) (exponent : Int) (num den : Nat) : Nat × Nat :=
  if 0 ≤ exponent then (num * base.pow exponent.toNat, den)
  else (num, den * base.pow (-exponent).toNat)

/-- The whole number nearest to a fraction; a tie goes to the even one. -/
def roundHalfEven (num den : Nat) : Nat :=
  let down := num / den
  let twice := 2 * (num % den)
  if twice < den then down
  else if den < twice then down + 1
  else if down % 2 = 0 then down else down + 1

/-- The number nearest to a positive fraction, or nothing where it is too large to be finite. -/
def ofFraction? (negative : Bool) (num den : Nat) : Option Binary64 :=
  let size : Int := (Nat.log2 num : Int) - (Nat.log2 den : Int)
  let (wideNum, wideDen) := scale 2 (53 - size) num den
  let exponent := if wideNum / wideDen < 1 <<< 53 then size - 53 else size - 52
  let exponent := max exponent leastExponent
  let (scaledNum, scaledDen) := scale 2 (-exponent) num den
  let mantissa := roundHalfEven scaledNum scaledDen
  let (mantissa, exponent) :=
    if mantissa = 1 <<< 53 then (1 <<< 52, exponent + 1) else (mantissa, exponent)
  if 971 < exponent then none else some (.finite negative mantissa exponent)

/-- The number nearest to `digits * 10 ^ power`. Outside the range of the format the power itself
decides, so that no large power has to be formed. -/
def ofDecimal? (negative : Bool) (digits : Nat) (power : Int) : Option Binary64 :=
  let zero := Binary64.finite negative 0 leastExponent
  if digits = 0 then some zero
  else
    let size : Int := ((Nat.toDigits 10 digits).length : Int) + power
    if 400 < size then none
    else if size < -400 then some zero
    else
      let (num, den) := scale 10 power digits 1
      ofFraction? negative num den

end Binary64

/-- The decimal `digits * 10 ^ power`. -/
structure Numeral where
  digits : Nat
  power : Int
deriving DecidableEq, Repr

namespace Shortest

/-- The distance to the lower bound of the numbers that round to a mantissa, in quarters of a unit of
its last bit. Below a power of two the neighbour is half as far. -/
def lowerGap (mantissa : Nat) (exponent : Int) : Nat :=
  if mantissa = 1 <<< 52 ∧ exponent ≠ Binary64.leastExponent then 1 else 2

/-- The exponent of the first decimal digit of a positive fraction. -/
def leadingPower (num den : Nat) : Int :=
  if den ≤ num then ((Nat.toDigits 10 (num / den)).length : Int) - 1
  else -((Nat.toDigits 10 ((den + num - 1) / num - 1)).length : Int)

/-- The neighbour of a fraction on the grid of a power of ten that lies within bounds, the nearer
one if both do. -/
def nearest? (low value high den : Nat) (closed : Bool) (power : Int) : Option Numeral :=
  let inside (digits : Nat) : Bool :=
    let (num, gridDen) := Binary64.scale 10 power digits 1
    if closed then low * gridDen ≤ num * den && num * den ≤ high * gridDen
    else low * gridDen < num * den && num * den < high * gridDen
  let (num, gridDen) := Binary64.scale 10 (-power) value den
  let down := num / gridDen
  let downNearer := 2 * (num % gridDen) < gridDen
  match inside down, inside (down + 1) with
  | true, true => some ⟨if downNearer then down else down + 1, power⟩
  | true, false => some ⟨down, power⟩
  | false, true => some ⟨down + 1, power⟩
  | false, false => none

/-- Tries grids of more and more digits. -/
def search (low value high den : Nat) (closed : Bool) (top : Int) : Nat → Nat → Numeral
  | 0, digits => ⟨value / den, -digits⟩
  | fuel + 1, digits =>
    (nearest? low value high den closed (top - digits)).getD
      (search low value high den closed top fuel (digits + 1))

/-- Drops zeros at the end of the digits. -/
def trim : Nat → Numeral → Numeral
  | 0, decimal => decimal
  | fuel + 1, decimal =>
    if decimal.digits % 10 = 0 then trim fuel ⟨decimal.digits / 10, decimal.power + 1⟩ else decimal

/-- The shortest decimal of a positive number `mantissa * 2 ^ exponent`. Seventeen digits always
suffice. -/
def ofParts (mantissa : Nat) (exponent : Int) : Numeral :=
  let (unit, den) := Binary64.scale 2 (exponent - 2) 1 1
  let value := 4 * mantissa * unit
  let low := (4 * mantissa - lowerGap mantissa exponent) * unit
  let high := (4 * mantissa + 2) * unit
  let closed := mantissa % 2 = 0
  trim 17 (search low value high den closed (leadingPower value den) 17 0)

end Shortest

/-- Writes a decimal without an exponent. -/
def Numeral.positional (decimal : Numeral) : List Char :=
  let digits := Nat.toDigits 10 decimal.digits
  if 0 ≤ decimal.power then digits ++ List.replicate decimal.power.toNat '0'
  else
    let places := (-decimal.power).toNat
    let digits := List.replicate (places + 1 - digits.length) '0' ++ digits
    digits.take (digits.length - places) ++ '.' :: digits.drop (digits.length - places)

/-- How a number is written: what marks a finite whole number as a number with places. -/
structure NumberFormat where
  wholeMark : String

/-- Writes a number with the fewest digits that read back. -/
def Binary64.render (format : NumberFormat) : Binary64 → String
  | .notANumber => "NaN"
  | .infinite negative => if negative then "-inf" else "inf"
  | .finite negative mantissa exponent =>
    let text := if mantissa = 0 then ['0'] else (Shortest.ofParts mantissa exponent).positional
    (if negative then "-" else "") ++ String.ofList text ++
      (if text.contains '.' then "" else format.wholeMark)

end FlowMeter.Decimal
