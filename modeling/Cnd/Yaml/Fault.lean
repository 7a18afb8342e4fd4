import Cnd.Decimal.Numeral
import Cnd.Text.Quoted

/-!
# What is wrong with a YAML document

Most faults only say that the text is not YAML. Apart from them stand the scalars that are to
be a value of some sort and are none, such as a date in a thirteenth month, and the escapes
that name no character.
-/

namespace Cnd.Yaml

/-- Why a text has no value as YAML. -/
inductive Fault where
  /-- It is not YAML, or not a single document of plain data. -/
  | malformed
  /-- A date is in a year that does not exist. -/
  | year (n : Nat)
  /-- A date is in a month that does not exist. -/
  | month
  /-- A date is on a day that its month does not have. -/
  | day
  /-- A time is in an hour that does not exist. -/
  | hour
  /-- A time is in a minute that does not exist. -/
  | minute
  /-- A time is in a second that does not exist. -/
  | second
  /-- A time is a day or more off the universal time, by so many minutes. -/
  | zone (minutes : Int)
  /-- An escape names a code point that does not exist. -/
  | codePoint
  /-- An escape names a number that is not even of the size of a code point. -/
  | hugeCodePoint
  | tooLong (e : Decimal.TooLong)
  | noInteger (base : Nat) (text : String)
  | noFloat (text : String)
  /-- A number has no characters, or none but a sign. -/
  | emptyNumber
  /-- A floating-point number to the base sixty has too many parts. -/
  | tooManyParts
  | noTruthValue (text : String)
  | noTimestamp
  | timestampNotText
deriving DecidableEq, Repr

namespace Fault

/-- A length of time of so many minutes, as whole days and seconds of a day. -/
def showMinutes (minutes : Int) : String :=
  let days := minutes / 1440
  let seconds := minutes % 1440 * 60
  if seconds = 0 then s!"datetime.timedelta(days={days})"
  else s!"datetime.timedelta(days={days}, seconds={seconds})"

/-- The fault in words. A text that is no integer is cut off if it is long. -/
def message : Fault → String
  | malformed => "Invalid YAML"
  | year n => s!"year {n} is out of range"
  | month => "month must be in 1..12"
  | day => "day is out of range for month"
  | hour => "hour must be in 0..23"
  | minute => "minute must be in 0..59"
  | second => "second must be in 0..59"
  | zone minutes =>
    "offset must be a timedelta strictly between -timedelta(hours=24) and " ++
      s!"timedelta(hours=24), not {showMinutes minutes}."
  | codePoint => "chr() arg not in range(0x110000)"
  | hugeCodePoint => "Python int too large to convert to C int"
  | tooLong e => e.message
  | noInteger base text =>
    let shown := String.ofList ((Text.quoted text).toList.take 200)
    s!"invalid literal for int() with base {base}: {shown}"
  | noFloat text => s!"could not convert string to float: {Text.quoted text}"
  | emptyNumber => "string index out of range"
  | tooManyParts => "int too large to convert to float"
  | noTruthValue text => Text.quoted text
  | noTimestamp => "'NoneType' object has no attribute 'groupdict'"
  | timestampNotText => "expected string or bytes-like object, got 'list'"

end Fault

end Cnd.Yaml
