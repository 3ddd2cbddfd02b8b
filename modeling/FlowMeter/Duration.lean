import FlowMeter.Decimal
import FlowMeter.Text

/-!
# Lengths of time

A length of time is written as numbers with units, such as `1h 30m`. White space is free between the
parts and within a number. A number may have places where the result is a whole number of
nanoseconds, for units of at least an hour of seconds. Every product and every sum on the way has to
fit 64 bits. A zero that stands alone needs no unit.
-/

namespace FlowMeter

/-- A length of time in seconds and nanoseconds. -/
structure Duration where
  seconds : Nat
  nanos : Nat
  seconds_lt : seconds < UInt64.size := by decide
  nanos_lt : nanos < 1000000000 := by decide
deriving DecidableEq, Repr

namespace Duration

/-- No time at all. -/
def zero : Duration := ⟨0, 0, by decide, by decide⟩

/-- A length of time of whole seconds. -/
def ofSeconds (seconds : UInt32) : Duration :=
  have h : seconds.toNat < UInt64.size :=
    Nat.lt_trans seconds.toNat_lt (by decide)
  ⟨seconds.toNat, 0, h, by decide⟩

/-- Whether it is no time at all. -/
def isZero (duration : Duration) : Bool :=
  duration.seconds = 0 && duration.nanos = 0

/-- Why a text is not read as a length of time: it is malformed, or the last carry of a second goes
beyond the range. -/
inductive Refusal where
  | malformed
  | beyondRange
deriving DecidableEq, Repr

/-- The units of time. -/
inductive TimeUnit where
  | nanosecond
  | microsecond
  | millisecond
  | second
  | minute
  | hour
  | day
  | week
  | month
  | year
deriving DecidableEq, Repr

namespace TimeUnit

/-- The names of a unit. -/
def names : TimeUnit → List String
  | .nanosecond => ["nanos", "nsec", "ns"]
  | .microsecond => ["usec", "us", "\u00b5s"]
  | .millisecond => ["millis", "msec", "ms"]
  | .second => ["seconds", "second", "secs", "sec", "s"]
  | .minute => ["minutes", "minute", "min", "mins", "m"]
  | .hour => ["hours", "hour", "hr", "hrs", "h"]
  | .day => ["days", "day", "d"]
  | .week => ["weeks", "week", "wk", "wks", "w"]
  | .month => ["months", "month", "M"]
  | .year => ["years", "year", "yr", "yrs", "y"]

/-- The units from the shortest to the longest. -/
def all : List TimeUnit :=
  [.nanosecond, .microsecond, .millisecond, .second, .minute, .hour, .day, .week, .month, .year]

/-- The unit of a name. -/
def ofName? (name : List Char) : Option TimeUnit :=
  all.find? fun unit => unit.names.any (·.toList == name)

/-- The length of a unit of at least a second, in seconds. -/
def seconds : TimeUnit → Nat
  | .nanosecond | .microsecond | .millisecond => 0
  | .second => 1
  | .minute => 60
  | .hour => 3600
  | .day => 86400
  | .week => 604800
  | .month => 2630016
  | .year => 31557600

/-- The length of a unit below a second, in nanoseconds. -/
def nanos : TimeUnit → Nat
  | .nanosecond => 1
  | .microsecond => 1000
  | .millisecond => 1000000
  | _ => 0

end TimeUnit

/-- A number, if it fits 64 bits. -/
def fit? (n : Nat) : Except Refusal Nat :=
  if n < UInt64.size then .ok n else .error .malformed

/-- The quotient of an exact division. -/
def exactly? (n d : Nat) : Except Refusal Nat :=
  if n % d = 0 then .ok (n / d) else .error .malformed

/-- Adds seconds and nanoseconds. -/
def add (total : Duration) (seconds nanos : Nat) : Except Refusal Duration := do
  let nanos ← fit? (total.nanos + nanos)
  let seconds ← fit? (if 1000000000 < nanos then seconds + nanos / 1000000000 else seconds)
  let rest := if 1000000000 < nanos then nanos % 1000000000 else nanos
  let seconds ← fit? (total.seconds + seconds)
  let carried := if rest = 1000000000 then seconds + 1 else seconds
  let rest := if rest = 1000000000 then 0 else rest
  if h : carried < UInt64.size ∧ rest < 1000000000 then return ⟨carried, rest, h.1, h.2⟩
  else throw .beyondRange

/-- Adds a number of units. -/
def addWhole (total : Duration) (unit : TimeUnit) (n : Nat) : Except Refusal Duration := do
  total.add (← fit? (n * unit.seconds)) (← fit? (n * unit.nanos))

/-- Adds the part of a unit that the places of a number stand for: nanoseconds up to minutes and
seconds from hours on. A part of a nanosecond is refused even where it is zero. -/
def addPart (total : Duration) (unit : TimeUnit) (n d : Nat) : Except Refusal Duration := do
  match unit with
  | .nanosecond => throw .malformed
  | .microsecond | .millisecond => total.add 0 (← exactly? (← fit? (n * unit.nanos)) d)
  | .second | .minute => total.add 0 (← exactly? (← fit? (n * (unit.seconds * 1000000000))) d)
  | _ => total.add (← exactly? (← fit? (n * unit.seconds)) d) 0

/-- Reads on in a number, past white space within it. -/
def readWhole (n : Nat) : List Char → Except Refusal (Nat × List Char)
  | [] => .ok (n, [])
  | c :: rest =>
    match Decimal.digitValue? 10 c with
    | some digit =>
      match fit? (n * 10 + digit) with
      | .ok n => readWhole n rest
      | .error refusal => .error refusal
    | none => if Text.isWhite c then readWhole n rest else .ok (n, c :: rest)

/-- Reads on in the places of a number, as a numerator and a power of ten. -/
def readPlaces (n d : Nat) : List Char → Except Refusal (Nat × Nat × List Char)
  | [] => .ok (n, d, [])
  | c :: rest =>
    match Decimal.digitValue? 10 c with
    | some digit =>
      match fit? (d * 10), fit? (n * 10 + digit) with
      | .ok d, .ok n => readPlaces n d rest
      | _, _ => .error .malformed
    | none => if Text.isWhite c then readPlaces n d rest else .ok (n, d, c :: rest)

/-- Whether a character may stand in the name of a unit. -/
def isUnitChar (c : Char) : Bool :=
  c.isAlpha || c == '\u00b5'

/-- Whether a unit may end here: at the end of the text, at white space or at the next number. -/
def endsUnit (text : List Char) : Bool :=
  text.head?.all fun c => Text.isWhite c || c.isDigit

/-- Reads the name of a unit. -/
def readUnit (text : List Char) : Except Refusal (TimeUnit × List Char) :=
  let rest := text.dropWhile isUnitChar
  match TimeUnit.ofName? (text.takeWhile isUnitChar) with
  | some unit => if endsUnit rest then .ok (unit, rest) else .error .malformed
  | none => .error .malformed

/-- Reads a number with its unit and adds it. -/
def readSpan (total : Duration) (text : List Char) : Except Refusal (Duration × List Char) := do
  let (whole, rest) ← readWhole 0 text
  match rest with
  | '.' :: rest =>
    let (n, d, rest) ← readPlaces 0 1 rest
    if d = 1 then throw .malformed
    let (unit, rest) ← readUnit rest
    return (← (← total.addWhole unit whole).addPart unit n d, rest)
  | rest =>
    let (unit, rest) ← readUnit rest
    return (← total.addWhole unit whole, rest)

/-- Reads numbers with units to the end of the text. -/
def readSpans : Nat → Duration → List Char → Except Refusal Duration
  | 0, _, _ => .error .malformed
  | fuel + 1, total, text =>
    match text.dropWhile Text.isWhite with
    | [] => .ok total
    | c :: rest =>
      if c.isDigit then
        match readSpan total (c :: rest) with
        | .ok (total, rest) => readSpans fuel total rest
        | .error refusal => .error refusal
      else .error .malformed

/-- Reads a length of time. A lone zero is no time at all; a text without any part is malformed. -/
def parse (text : List Char) : Except Refusal Duration :=
  if text = ['0'] then .ok zero
  else if text.all Text.isWhite then .error .malformed
  else readSpans (text.length + 1) zero text

end Duration

end FlowMeter
