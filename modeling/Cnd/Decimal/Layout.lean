import Cnd.Decimal.Shortest

/-!
# How a floating-point number is written

A layout says from which power of ten on a number is written with an exponent. The digits
are those of `Binary.shortest`; a number written without an exponent always shows a
fractional part, so that it is not mistaken for an integer.
-/

namespace Cnd.Decimal

/-- The decisions behind the text of a number. -/
structure Layout where
  /-- The least power of ten of a leading digit that is written without an exponent. -/
  leastPositional : Int
  /-- The first power of ten that is written with an exponent again. -/
  firstScientific : Int
  exponentWidth : Nat

/-- `n` in decimal, filled up with zeros on the left. -/
def padded (width n : Nat) : List Char :=
  let ds := Nat.toDigits 10 n
  List.replicate (width - ds.length) '0' ++ ds

namespace Digits

/-- The digits, without the zeros at their end, and the power of ten of the first one. -/
def significant (d : Digits) : List Char × Int :=
  let ds := Nat.toDigits 10 d.digits
  let kept := (ds.reverse.dropWhile (· = '0')).reverse
  (if kept.isEmpty then ['0'] else kept, d.exponent + ds.length - 1)

end Digits

namespace Layout

/-- The digits with the point behind the power of ten `0`, when the first one has the power
`lead`. -/
def positional (ds : List Char) (lead : Int) : List Char :=
  if lead < 0 then '0' :: '.' :: List.replicate (-lead - 1).toNat '0' ++ ds
  else
    let whole := lead.toNat + 1
    let fraction := ds.drop whole
    ds.take whole ++ List.replicate (whole - ds.length) '0' ++
      '.' :: (if fraction.isEmpty then ['0'] else fraction)

/-- The digits with the point behind the first one, and the power of ten. -/
def scientific (l : Layout) (ds : List Char) (lead : Int) : List Char :=
  let mantissa :=
    match ds with
    | d :: e :: rest => d :: '.' :: e :: rest
    | ds => ds
  mantissa ++ 'e' :: (if lead < 0 then '-' else '+') :: padded l.exponentWidth lead.natAbs

def render (l : Layout) (x : Float) : String :=
  let bits := x.toBits
  let sign := if bits >>> 63 = 1 then ['-'] else []
  if x.isNaN then "nan"
  else if x.isInf then String.ofList (sign ++ ['i', 'n', 'f'])
  else
    let d := (Binary.ofBits bits).shortest
    let (ds, lead) := d.significant
    let body :=
      if d.digits = 0 then ['0', '.', '0']
      else if l.leastPositional ≤ lead ∧ lead < l.firstScientific then positional ds lead
      else l.scientific ds lead
    String.ofList (sign ++ body)

end Layout

/-- Numbers in messages: without an exponent from a ten-thousandth to below ten to the
sixteenth, otherwise with an exponent of at least two digits. -/
def inMessages : Layout := ⟨-4, 16, 2⟩

end Cnd.Decimal
