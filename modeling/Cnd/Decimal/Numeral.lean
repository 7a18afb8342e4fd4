/-!
# Decimal numerals

The value of a decimal numeral: as a natural number, or as the double nearest to it. Integers
of more than 4300 digits are neither read nor shown, as both take too long.
-/

namespace Cnd.Decimal

/-- The natural number with these digits in base `base`; characters that are no digits count
as zero. -/
def natOfDigits (base : Nat) (ds : List Char) : Nat :=
  ds.foldl (fun n d => n * base + digitValue d) 0
where
  digitValue (d : Char) : Nat :=
    if d.isDigit then d.toNat - '0'.toNat
    else if 'a' ≤ d ∧ d ≤ 'f' then d.toNat - 'a'.toNat + 10
    else if 'A' ≤ d ∧ d ≤ 'F' then d.toNat - 'A'.toNat + 10
    else 0

/-- The greatest number of digits of an integer that is read or shown. -/
def maxDigits : Nat := 4300

inductive TooLong where
  /-- It is to be read, and has so many digits. -/
  | numeral (digits : Nat)
  | number
deriving DecidableEq, Repr

def TooLong.message (e : TooLong) : String :=
  let found :=
    match e with
    | numeral digits => s!": value has {digits} digits"
    | number => ""
  s!"Exceeds the limit ({maxDigits} digits) for integer string conversion{found}; " ++
    "use sys.set_int_max_str_digits() to increase the limit"

/-- The natural number with these decimal digits. -/
def readNat (ds : List Char) : Except TooLong Nat :=
  if maxDigits < ds.length then .error (.numeral ds.length) else .ok (natOfDigits 10 ds)

/-- The digits of an integer, behind its sign. -/
def showInt (n : Int) : Except TooLong String :=
  if Nat.pow 10 maxDigits ≤ n.natAbs then .error .number else .ok (toString n)

/-- The double nearest to the number with the digits `whole`, a point, the digits
`fraction`, and the power of ten `exponent`. Exponents far beyond the range of doubles give
infinity or zero without being computed. -/
def floatOfDigits (whole fraction : List Char) (exponent : Int) : Float :=
  let ds := (whole ++ fraction).dropWhile (· = '0')
  let scale := exponent - fraction.length
  if ds.isEmpty then 0
  else if 400 < scale + ds.length then 1 / 0
  else if scale + ds.length < -400 then 0
  else if 0 ≤ scale then Float.ofScientific (natOfDigits 10 ds) false scale.toNat
  else Float.ofScientific (natOfDigits 10 ds) true (-scale).toNat

end Cnd.Decimal
