import FlowMeter.Decimal
import FlowMeter.Duration
import FlowMeter.Flow.Key

/-!
# Settings, and what may be wrong with them

What a user may set: how flows are told apart, what a record shows, how often flows are flushed, and
the logging of the program. Every setting has a default. A settings text may be no YAML document, may hold
a value of the wrong shape, or may set a value that has no meaning. The message of a shape names the
setting and tells what was found and expected.
-/

namespace FlowMeter

/-- Logging: the least level, the file, and the days for which old files are kept. Without a file
the log goes to the error output. -/
structure LogSettings where
  level : String := "info"
  file : Option String := none
  retention : UInt32 := 7
deriving DecidableEq, Repr

/-- The levels of logging. -/
def LogSettings.levels : List String := ["off", "error", "warn", "info", "debug", "trace"]

/-- Whether the level is known, in any mix of letter case. -/
def LogSettings.levelKnown (log : LogSettings) : Bool :=
  levels.contains (String.ofList (log.level.toList.map Char.toLower))

/-- All settings. -/
structure Settings where
  aggregation : Aggregation := .mergedByEndpoint
  withLocalPort : Bool := false
  flushInterval : Duration := .ofSeconds 15
  log : LogSettings := {}
deriving DecidableEq, Repr

namespace Settings

/-- A value that was found. -/
inductive Found where
  | null
  | bool (value : Bool)
  | int (value : Int)
  | float (value : Decimal.Binary64)
  | text (value : String)
  | sequence
  | mapping
deriving DecidableEq, Repr

/-- Numbers are found with a mark of their kind even where they are whole. -/
def numberFormat : Decimal.NumberFormat := ⟨".0"⟩

/-- The words for a value; a number beyond 64 bits is told by its width. -/
def Found.message : Found → String
  | .null => "unit value"
  | .bool value => "boolean \x60" ++ toString value ++ "\x60"
  | .int value =>
    "integer \x60" ++ toString value ++ "\x60" ++
      (if (UInt64.size : Int) ≤ value then " as u128" else if value < Int64.minValue.toInt then " as i128" else "")
  | .float value => "floating point \x60" ++ value.render numberFormat ++ "\x60"
  | .text value => "string " ++ Text.quoted value
  | .sequence => "sequence"
  | .mapping => "map"

/-- A kind of value that was expected. -/
inductive Expected where
  | settings
  | log
  | fieldName
  | bool
  | int
  | float
  | null
  | unit
  | word
  | text
  | duration
  | variantTag
deriving DecidableEq, Repr

/-- The words for a kind of value. -/
def Expected.message : Expected → String
  | .settings => "struct ObserverConfig"
  | .log => "struct LogConfig"
  | .fieldName => "field identifier"
  | .bool => "a boolean"
  | .int => "an integer"
  | .float => "a float"
  | .null => "null"
  | .unit => "unit"
  | .word => "u32"
  | .text => "a string"
  | .duration => "a duration"
  | .variantTag => "a YAML tag starting with '!'"

/-- What is wrong with the shape of a value. -/
inductive Problem where
  | unknownVariant (word : String)
  | duplicateField (name : String)
  | invalidType (found : Found) (expected : Expected)
  | invalidValue (found : Found) (expected : Expected)
deriving DecidableEq, Repr

/-- The words for what is wrong with a shape. -/
def Problem.message : Problem → String
  | .unknownVariant word =>
    "unknown variant \x60" ++ word ++ "\x60, expected \x60per-socket\x60 or \x60merged-by-endpoint\x60"
  | .duplicateField name => "duplicate field \x60" ++ name ++ "\x60"
  | .invalidType found expected =>
    "invalid type: " ++ found.message ++ ", expected " ++ expected.message
  | .invalidValue found expected =>
    "invalid value: " ++ found.message ++ ", expected " ++ expected.message

/-- Why settings are refused. A malformed text has no message of its own; `beyondRange` is the fault
of a flush interval whose last carry leaves the range of seconds. -/
inductive Error where
  | malformed
  | shape (path : List String) (problem : Problem)
  | unknownLevel (level : String)
  | zeroInterval
  | missingFile
  | notText
  | beyondRange
deriving DecidableEq, Repr

/-- The message of a refusal, where it has one. -/
def Error.message? : Error → Option String
  | .malformed => none
  | .shape path problem =>
    some ("yaml config invalid: " ++
      (if path.isEmpty then "" else String.intercalate "." path ++ ": ") ++ problem.message)
  | .unknownLevel level => some ("yaml config invalid: log level " ++ level ++ " invalid")
  | .zeroInterval => some "yaml config invalid: flush-interval must not be zero"
  | .missingFile => some "yaml config invalid: No such file or directory (os error 2)"
  | .notText => some "yaml config invalid: stream did not contain valid UTF-8"
  | .beyondRange => some "overflow in Duration::new"

end Settings

end FlowMeter
