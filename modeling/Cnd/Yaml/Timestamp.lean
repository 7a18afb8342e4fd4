import Cnd.Decimal.Layout
import Cnd.Decimal.Numeral
import Cnd.Yaml.Fault

/-!
# Timestamps

The dates and times that a plain scalar can stand for: a date alone, or a date with a time of
day and perhaps the distance from universal time. The form is recognised first, and whether
the date exists is asked afterwards.
-/

namespace Cnd.Yaml

structure ClockTime where
  hour : Nat
  minute : Nat
  second : Nat
  microsecond : Nat
  /-- How many minutes it is ahead of universal time, if that is known. -/
  zone : Option Int
deriving DecidableEq, Repr

/-- A date, with a time or without. -/
structure Timestamp where
  year : Nat
  month : Nat
  day : Nat
  time : Option ClockTime
deriving DecidableEq, Repr

namespace Timestamp

/-! ## Reading -/

/-- A number of at least `least` and at most `most` digits, as many as there are. -/
def digits? (least most : Nat) (cs : List Char) : Option (List Char × List Char) :=
  let ds := (cs.take most).takeWhile Char.isDigit
  if ds.length < least then none else some (ds, cs.drop ds.length)

/-- The character `c`, and then a number of digits. -/
def field? (c : Char) (least most : Nat) : List Char → Option (List Char × List Char)
  | d :: cs => if d = c then digits? least most cs else none
  | [] => none

/-- Is the character a space or a tab? -/
def isGap (c : Char) : Bool := c = ' ' || c = '\t'

/-- The fraction of a second, which may have no digits, and what follows it. -/
def readFraction : List Char → List Char × List Char
  | '.' :: cs => (cs.takeWhile Char.isDigit, cs.dropWhile Char.isDigit)
  | cs => ([], cs)

/-- The zone behind a time, up to the end: none, `Z`, or the hours and minutes ahead. -/
def readZone? (cs : List Char) : Option (Option Int) :=
  match cs.dropWhile isGap with
  | [] => if cs.isEmpty then some none else none
  | ['Z'] => some (some 0)
  | sign :: rest =>
    if sign = '+' ∨ sign = '-' then do
      let (hours, rest) ← digits? 1 2 rest
      let minutes ←
        if rest.isEmpty then some []
        else do
          let (ds, rest) ← field? ':' 2 2 rest
          if rest.isEmpty then some ds else none
      let total : Int := Decimal.natOfDigits 10 hours * 60 + Decimal.natOfDigits 10 minutes
      return some (if sign = '-' then -total else total)
    else none

/-- The time of day behind a date, up to the end. -/
def readTime? (cs : List Char) : Option ClockTime := do
  let behind ←
    match cs with
    | 'T' :: rest | 't' :: rest => some rest
    | c :: rest => if isGap c then some (rest.dropWhile isGap) else none
    | [] => none
  let (hour, rest) ← digits? 1 2 behind
  let (minute, rest) ← field? ':' 2 2 rest
  let (second, rest) ← field? ':' 2 2 rest
  let (fraction, rest) := readFraction rest
  let zone ← readZone? rest
  let micros := (fraction ++ List.replicate 6 '0').take 6
  return ⟨Decimal.natOfDigits 10 hour, Decimal.natOfDigits 10 minute,
    Decimal.natOfDigits 10 second, Decimal.natOfDigits 10 micros, zone⟩

/-- The timestamp that characters have the form of. -/
def ofChars? (cs : List Char) : Option Timestamp := do
  let (year, rest) ← digits? 4 4 cs
  let (month, rest) ← field? '-' 1 2 rest
  let (day, rest) ← field? '-' 1 2 rest
  let date := Timestamp.mk (Decimal.natOfDigits 10 year) (Decimal.natOfDigits 10 month)
    (Decimal.natOfDigits 10 day)
  if rest.isEmpty then return date none else return date (some (← readTime? rest))

/-- Is a plain scalar taken for a timestamp? A date alone must have two digits for its month and
its day; in front of a time one is enough. -/
def isWritten (cs : List Char) : Bool :=
  match ofChars? cs with
  | some t => t.time.isSome || cs.length = 10
  | none => false

/-! ## Existence -/

def isLeap (year : Nat) : Bool := year % 4 = 0 && (year % 100 ≠ 0 || year % 400 = 0)

/-- The number of days of a month. -/
def daysIn (year month : Nat) : Nat :=
  if month = 2 then if isLeap year then 29 else 28
  else if month ∈ [4, 6, 9, 11] then 30
  else 31

/-- The first part of the timestamp that does not exist, if there is one. The zone is looked
at before anything else. -/
def fault? (t : Timestamp) : Option Fault :=
  let zone := (t.time.bind (·.zone)).getD 0
  if zone ≤ -1440 ∨ 1440 ≤ zone then some (.zone zone)
  else if t.year = 0 then some (.year 0)
  else if t.month = 0 ∨ 12 < t.month then some .month
  else if t.day = 0 ∨ daysIn t.year t.month < t.day then some .day
  else
    match t.time with
    | none => none
    | some c =>
      if 23 < c.hour then some .hour
      else if 59 < c.minute then some .minute
      else if 59 < c.second then some .second
      else none

/-! ## Order and text -/

/-- The number of days before a date. -/
def daysBefore (t : Timestamp) : Nat :=
  let y := t.year - 1
  let months := (List.range (t.month - 1)).foldl (fun n m => n + daysIn t.year (m + 1)) 0
  y * 365 + y / 4 - y / 100 + y / 400 + months + (t.day - 1)

/-- The number of microseconds before a timestamp, in universal time if its zone is known. -/
def microseconds (t : Timestamp) : Int :=
  match t.time with
  | none => t.daysBefore * 86400000000
  | some c =>
    let minutes : Int := t.daysBefore * 1440 + c.hour * 60 + c.minute - c.zone.getD 0
    (minutes * 60 + c.second) * 1000000 + c.microsecond

/-- Timestamps can be compared if they are alike: dates, times with a zone, or times without
one. -/
def alike (t u : Timestamp) : Bool :=
  t.time.map (·.zone.isSome) = u.time.map (·.zone.isSome)

/-- The zone of a time in words. -/
def showZone (minutes : Int) : List Char :=
  let n := minutes.natAbs
  (if minutes < 0 then '-' else '+') :: Decimal.padded 2 (n / 60) ++
    ':' :: Decimal.padded 2 (n % 60)

def shown (t : Timestamp) : String :=
  let date := Decimal.padded 4 t.year ++ '-' :: Decimal.padded 2 t.month ++
    '-' :: Decimal.padded 2 t.day
  match t.time with
  | none => String.ofList date
  | some c =>
    let fraction := if c.microsecond = 0 then [] else '.' :: Decimal.padded 6 c.microsecond
    String.ofList (date ++ ' ' :: Decimal.padded 2 c.hour ++ ':' :: Decimal.padded 2 c.minute ++
      ':' :: Decimal.padded 2 c.second ++ fraction ++ (c.zone.map showZone).getD [])

end Timestamp

end Cnd.Yaml
