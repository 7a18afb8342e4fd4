import Cnd.Decimal.Literal
import Cnd.Text.Lower
import Cnd.Text.Split
import Cnd.Yaml.Fault

/-!
# Numbers in YAML

The numbers that a YAML scalar can be, in two respects. Their form decides whether a plain
scalar is taken for a number at all (`isInt`, `isFloat`). The value of a scalar that is taken
for one is read apart from this (`readInt`, `readFloat`), as a tag may ask for it whatever the
form is; then the scalar may turn out to be no number.

An underline may stand anywhere among the digits and means nothing. Parts between colons are
digits to the base sixty.
-/

namespace Cnd.Yaml.Number

/-! ## The form -/

/-- Is the character a digit, or the mark that may stand between digits? -/
def isDigitOrMark (c : Char) : Bool := c.isDigit || c = '_'

/-- The characters behind the digits of a number that begins with a digit. -/
def behindDigits? : List Char → Option (List Char)
  | [] => none
  | c :: cs => if c.isDigit then some (cs.dropWhile isDigitOrMark) else none

/-- The characters behind the parts to the base sixty, each a colon and one or two digits below
sixty. -/
def behindSixties : List Char → List Char
  | ':' :: c :: d :: rest =>
    if '0' ≤ c ∧ c ≤ '5' ∧ d.isDigit then behindSixties rest
    else if c.isDigit then behindSixties (d :: rest)
    else ':' :: c :: d :: rest
  | [':', c] => if c.isDigit then [] else [':', c]
  | cs => cs
termination_by cs => cs.length

/-- Is this an exponent with its sign, or nothing? -/
def isExponent : List Char → Bool
  | [] => true
  | e :: sign :: ds =>
    (e = 'e' || e = 'E') && (sign = '+' || sign = '-') && !ds.isEmpty && ds.all Char.isDigit
  | _ => false

/-- Is a text without sign an integer: in binary, octal, decimal, hexadecimal, or to the base
sixty? -/
def isUnsignedInt : List Char → Bool
  | '0' :: 'b' :: ds => !ds.isEmpty && ds.all fun d => d = '0' || d = '1' || d = '_'
  | '0' :: 'x' :: ds => !ds.isEmpty && ds.all fun d => Decimal.isDigitIn 16 d || d = '_'
  | '0' :: ds => ds.all fun d => ('0' ≤ d && d ≤ '7') || d = '_'
  | cs => ((behindDigits? cs).map fun behind => (behindSixties behind).isEmpty).getD false

/-- Has the text the form of an integer? -/
def isInt (cs : List Char) : Bool := isUnsignedInt (Decimal.splitSign cs).2

/-- Is a text without sign, which does not begin with its point, a number with a point in
it? -/
def isUnsignedFloat (cs : List Char) : Bool :=
  match behindDigits? cs with
  | none => false
  | some behind =>
    match behindSixties behind with
    | '.' :: rest =>
      let behindPoint := rest.dropWhile isDigitOrMark
      if behind.head? = some '.' then isExponent behindPoint else behindPoint.isEmpty
    | _ => false

/-- Has the text the form of a number with a point in it? One that begins with the point has no
sign. -/
def isFloat (cs : List Char) : Bool :=
  let unsigned := (Decimal.splitSign cs).2
  match cs with
  | '.' :: rest =>
    ((behindDigits? rest).map isExponent).getD false ||
      [".inf", ".Inf", ".INF", ".nan", ".NaN", ".NAN"].contains (String.ofList cs)
  | _ =>
    isUnsignedFloat unsigned || [".inf", ".Inf", ".INF"].contains (String.ofList unsigned)

/-! ## The value -/

/-- A text without underlines and its sign, which is looked for only in a text that has
characters. -/
def signed (text : String) : Except Fault (Bool × List Char) :=
  match text.toList.filter (· ≠ '_') with
  | [] => .error .emptyNumber
  | cs => .ok (Decimal.splitSign cs)

/-- The parts between the colons of a text. -/
def parts (cs : List Char) : List String :=
  (Text.splitOn ':' cs).map String.ofList

/-- The integer a text is to a base. -/
def intTo (base : Nat) (text : String) : Except Fault Int :=
  (Decimal.readInt base text).mapError fun
    | .malformed => .noInteger base text
    | .tooLong e => .tooLong e

/-- The integer that characters without sign are. -/
def unsignedInt (cs : List Char) : Except Fault Int :=
  match cs with
  | [] => .error .emptyNumber
  | '0' :: 'b' :: ds => intTo 2 (String.ofList ds)
  | '0' :: 'x' :: ds => intTo 16 (String.ofList ds)
  | '0' :: _ => intTo 8 (String.ofList cs)
  | _ => do
    let digits ← (parts cs).mapM (intTo 10)
    return digits.foldl (fun n d => n * 60 + d) 0

def readInt (text : String) : Except Fault Int := do
  let (negative, cs) ← signed text
  let n ← unsignedInt cs
  return if negative then -n else n

def float (text : String) : Except Fault Float :=
  match Decimal.readFloat? text with
  | some x => .ok x
  | none => .error (.noFloat text)

/-- The sum of parts to the base sixty, the last one first, the first of which counts `unit`.
Each product and each sum is rounded. -/
def sumSixties (unit : Nat) (sum : Float) : List Float → Except Fault Float
  | [] => .ok sum
  | d :: rest =>
    if Nat.pow 2 1024 ≤ unit then .error .tooManyParts
    else sumSixties (unit * 60) (sum + d * Float.ofScientific unit false 0) rest

/-- The floating-point number that a scalar is. The case of its letters does not matter. -/
def readFloat (text : String) : Except Fault Float := do
  let (negative, cs) ← signed (Text.lower text)
  let x ←
    match String.ofList cs with
    | ".inf" => pure (1 / 0)
    | ".nan" => pure (0 / 0)
    | unsigned =>
      if cs.contains ':' then do
        let digits ← (parts cs).mapM float
        sumSixties 1 0 digits.reverse
      else float unsigned
  return if negative then -x else x

end Cnd.Yaml.Number
