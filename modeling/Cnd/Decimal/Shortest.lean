/-!
# The shortest decimal of a floating-point number

Every finite double is `mantissa · 2 ^ exponent`, and the reals that round to it form an
interval around it. Of the decimals in that interval, `shortest` picks one with the fewest
digits, and among those one nearest to the number; of two equally near ones, the even one.
All of it is exact arithmetic on naturals.
-/

namespace Cnd.Decimal

/-- The absolute value of a finite double, `mantissa · 2 ^ exponent`. -/
structure Binary where
  mantissa : Nat
  exponent : Int
  /-- Is the number below half as far away as the number above? -/
  narrowBelow : Bool
deriving Repr, DecidableEq

/-- A decimal, `digits · 10 ^ exponent`. -/
structure Digits where
  digits : Nat
  exponent : Int
deriving Repr, DecidableEq

namespace Binary

/-- Takes the bits of a finite double apart; the sign is left out. -/
def ofBits (bits : UInt64) : Binary :=
  let exponent := ((bits >>> 52) &&& 0x7FF).toNat
  let fraction := (bits &&& 0xFFFFFFFFFFFFF).toNat
  if exponent = 0 then ⟨fraction, -1074, false⟩
  else ⟨0x10000000000000 + fraction, exponent - 1075, fraction = 0 ∧ 1 < exponent⟩

/-- The number times a power of two and a power of ten, except where a power is negative. -/
def scaled (n : Nat) (two ten : Int) : Nat := n * Nat.pow 2 two.toNat * Nat.pow 10 ten.toNat

/-- How `a · 10 ^ i` compares with `n · 2 ^ j`. -/
def compareScaled (a : Nat) (i : Int) (n : Nat) (j : Int) : Ordering :=
  compare (scaled a (-j) i) (scaled n j (-i))

/-- Is the decimal among the reals that round to the number? The ends of that interval are
half-way to its neighbours, and belong to it exactly when the mantissa is even. -/
def holds (x : Binary) (d : Digits) : Bool :=
  let low := 4 * x.mantissa - (if x.narrowBelow then 1 else 2)
  let high := 4 * x.mantissa + 2
  let closed := x.mantissa % 2 = 0
  let below := compareScaled d.digits d.exponent low (x.exponent - 2)
  let above := compareScaled d.digits d.exponent high (x.exponent - 2)
  (below = .gt || closed && below = .eq) && (above = .lt || closed && above = .eq)

/-- The multiples of `10 ^ exponent` that enclose the number: the one at or below it; the
next one is one more. -/
def floorOn (x : Binary) (exponent : Int) : Nat :=
  scaled x.mantissa x.exponent (-exponent) / scaled 1 (-x.exponent) exponent

/-- The least `k` with the number below `10 ^ k`, for a number that is not zero. -/
def magnitude (x : Binary) : Int :=
  let above := scaled x.mantissa x.exponent 0
  let below := scaled 1 (-x.exponent) 0
  if below ≤ above then (Nat.toDigits 10 (above / below)).length
  else 1 - (Nat.toDigits 10 (below / above)).length

/-- The decimal on the grid of `10 ^ exponent` that rounds to the number and is nearest to
it, if there is one. -/
def onGrid (x : Binary) (exponent : Int) : Option Digits :=
  let floor := x.floorOn exponent
  let low : Digits := ⟨floor, exponent⟩
  let high : Digits := ⟨floor + 1, exponent⟩
  match x.holds low, x.holds high with
  | false, false => none
  | true, false => some low
  | false, true => some high
  | true, true =>
    match compareScaled (2 * floor + 1) exponent (2 * x.mantissa) x.exponent with
    | .gt => some low
    | .lt => some high
    | .eq => if floor % 2 = 0 then some low else some high

/-- The first grid, from `exponent` downwards, that has such a decimal, with at most
`fuel + 1` digits more than the first grid has. -/
def search (x : Binary) (exponent : Int) : Nat → Digits
  | 0 => (x.onGrid exponent).getD ⟨x.floorOn exponent, exponent⟩
  | fuel + 1 => (x.onGrid exponent).getD (search x (exponent - 1) fuel)

/-- A shortest decimal that rounds to the number. Seventeen digits always suffice. -/
def shortest (x : Binary) : Digits :=
  if x.mantissa = 0 then ⟨0, 0⟩ else x.search (x.magnitude - 1) 16

end Binary

end Cnd.Decimal
