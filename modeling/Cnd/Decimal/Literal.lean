import Cnd.Decimal.Numeral
import Cnd.Text.Blank
import Cnd.Text.Digit

/-!
# Number literals

Texts that are a number and nothing else: blanks may stand around it, a sign in front of it,
and its digits may be those of any script. An integer may be to a base of 2, 8, 10 or 16, and
then may begin with the mark of that base.
-/

namespace Cnd.Decimal

/-! ## Plain characters -/

/-- Is the character a blank that may stand around a number, after `plain`? -/
def isSpace (c : Char) : Bool :=
  c = ' ' || c = '\t' || c = '\n' || c = '\r' || c = '\x0b' || c = '\x0c'

/-- The ASCII character that means the same in a number: a blank becomes a space, and a digit
the ASCII one. Other characters stay, as no number has them. -/
def plain (c : Char) : Char :=
  if c.toNat < 127 then c
  else if Text.isBlank c then ' '
  else
    match Text.digitValue? c with
    | some d => Char.ofNat ('0'.toNat + d)
    | none => c

/-- The text in plain characters, without the blanks in front of it. -/
def plainStart (text : String) : List Char := (text.toList.map plain).dropWhile isSpace

/-- Is the number negative, and what follows its sign. -/
def splitSign : List Char → Bool × List Char
  | '-' :: cs => (true, cs)
  | '+' :: cs => (false, cs)
  | cs => (false, cs)

/-! ## Integers -/

inductive IntFault where
  | malformed
  | tooLong (e : TooLong)
deriving DecidableEq, Repr

/-- Is the character a digit to a base of at most sixteen? -/
def isDigitIn (base : Nat) (c : Char) : Bool :=
  (c.isDigit || ('a' ≤ c && c ≤ 'f') || ('A' ≤ c && c ≤ 'F')) && natOfDigits 16 [c] < base

/-- The characters behind the mark of a base. -/
def skipBaseMark (base : Nat) (cs : List Char) : List Char :=
  match cs with
  | '0' :: c :: rest =>
    let isMark : Bool :=
      match base with
      | 2 => c = 'b' || c = 'B'
      | 8 => c = 'o' || c = 'O'
      | 16 => c = 'x' || c = 'X'
      | _ => false
    if isMark then rest else cs
  | _ => cs

/-- The integer a text is, to a base of 2, 8, 10 or 16. Only to the base ten is its length
limited, and the length is looked at before what follows the digits. -/
def readInt (base : Nat) (text : String) : Except IntFault Int :=
  let (negative, unsigned) := splitSign (plainStart text)
  let body := skipBaseMark base unsigned
  let ds := body.takeWhile (isDigitIn base)
  if base = 10 ∧ maxDigits < ds.length then .error (.tooLong (.numeral ds.length))
  else if ds.isEmpty ∨ ¬ (body.dropWhile (isDigitIn base)).all isSpace then .error .malformed
  else
    let n : Int := natOfDigits base ds
    .ok (if negative then -n else n)

/-! ## Floating-point numbers -/

/-- The power of ten behind the digits of a number, if it has the form of one. -/
def exponent? : List Char → Option Int
  | [] => some 0
  | e :: cs =>
    if e = 'e' ∨ e = 'E' then
      let (negative, ds) := splitSign cs
      if ds.isEmpty ∨ ¬ ds.all Char.isDigit then none
      else
        let n : Int := natOfDigits 10 ds
        some (if negative then -n else n)
    else none

/-- The floating-point number without sign that these characters are. -/
def unsignedFloat? (cs : List Char) : Option Float :=
  let word := String.ofList (cs.map Char.toLower)
  if word = "inf" ∨ word = "infinity" then some (1 / 0)
  else if word = "nan" then some (0 / 0)
  else
    let whole := cs.takeWhile Char.isDigit
    let behind := cs.dropWhile Char.isDigit
    let (fraction, behind) :=
      match behind with
      | '.' :: rest => (rest.takeWhile Char.isDigit, rest.dropWhile Char.isDigit)
      | _ => ([], behind)
    if whole.isEmpty ∧ fraction.isEmpty then none
    else (exponent? behind).map (floatOfDigits whole fraction)

def readFloat? (text : String) : Option Float :=
  let trimmed := ((plainStart text).reverse.dropWhile isSpace).reverse
  let (negative, unsigned) := splitSign trimmed
  (unsignedFloat? unsigned).map fun x => if negative then -x else x

end Cnd.Decimal
