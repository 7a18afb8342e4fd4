import Cnd.Decimal.Layout
import Cnd.Text.Base64
import Cnd.Yaml.Tag

/-!
# Atoms

The values without parts that a YAML scalar can stand for, each with how it is read from the
text of the scalar once its tag is known.

Keys of a mapping are the same when their values are equal, so numbers are compared across
their types, and a truth value counts as zero or one.
-/

namespace Cnd.Yaml

inductive Atom where
  | null
  | bool (b : Bool)
  | int (n : Int)
  | float (x : Float)
  | bytes (bs : List UInt8)
  | timestamp (t : Timestamp)
  | string (s : String)

namespace Atom

/-! ## Reading -/

/-- The truth value of a word, whatever the case of its letters. -/
def readBool (text : String) : Except Fault Bool :=
  let word := Text.lower text
  if word ∈ Tag.trueWords then .ok true
  else if word ∈ Tag.falseWords then .ok false
  else .error (.noTruthValue word)

/-- The bytes of a text to the base 64, which must be ASCII. -/
def readBytes (text : String) : Except Fault (List UInt8) :=
  if text.toList.all fun c => c.toNat < 128 then
    match Text.Base64.decode text.toList with
    | some bs => .ok bs
    | none => .error .malformed
  else .error .malformed

/-- The timestamp of a text, which must exist. One line feed at its end does not count. -/
def readTimestamp (text : String) : Except Fault Timestamp :=
  match Timestamp.ofChars? (dropFinalLineFeed text.toList) with
  | none => .error .noTimestamp
  | some t =>
    match t.fault? with
    | some f => .error f
    | none => .ok t

/-- What a text stands for under a tag. Under most tags it must have a certain form. -/
def read (tag : Tag) (text : String) : Except Fault Atom :=
  match tag with
  | .null => .ok .null
  | .bool => (readBool text).map .bool
  | .int => (Number.readInt text).map .int
  | .float => (Number.readFloat text).map .float
  | .binary => (readBytes text).map .bytes
  | .timestamp => (readTimestamp text).map .timestamp
  | .string => .ok (.string text)
  | _ => .error .malformed

/-! ## Order and text -/

/-- A number, `mantissa · 2 ^ exponent`, or one that is none. -/
inductive Size where
  | finite (mantissa exponent : Int)
  | infinite (negative : Bool)
  | undefined

def sizeOfFloat (x : Float) : Size :=
  if x.isNaN then .undefined
  else if x.isInf then .infinite (x < 0)
  else
    let b := Decimal.Binary.ofBits x.toBits
    .finite (if x < 0 then -b.mantissa else b.mantissa) b.exponent

/-- The number an atom is, if it is one. -/
def size? : Atom → Option Size
  | bool b => some (.finite (if b then 1 else 0) 0)
  | int n => some (.finite n 0)
  | float x => some (sizeOfFloat x)
  | _ => none

/-- How numbers compare. One that is undefined is taken to be equal to all others. -/
def Size.compare : Size → Size → Ordering
  | finite m p, finite n q =>
    let least := min p q
    Ord.compare (m * Nat.pow 2 (p - least).toNat) (n * Nat.pow 2 (q - least).toNat)
  | infinite a, infinite b => if a = b then .eq else if a then .lt else .gt
  | infinite a, finite .. => if a then .lt else .gt
  | finite .., infinite b => if b then .gt else .lt
  | _, _ => .eq

/-- How two atoms compare, if they can be compared. -/
def compare? (a b : Atom) : Option Ordering :=
  match a, b with
  | string s, string t => some (Ord.compare s t)
  | bytes b, bytes c => some (Ord.compare (b.map UInt8.toNat) (c.map UInt8.toNat))
  | timestamp t, timestamp u =>
    if t.alike u then some (Ord.compare t.microseconds u.microseconds) else none
  | a, b =>
    match a.size?, b.size? with
    | some x, some y => some (x.compare y)
    | _, _ => none

/-- Are the two the same as keys? -/
def same (a b : Atom) : Bool :=
  match a, b with
  | null, null => true
  | float x, float y => (x.isNaN && y.isNaN) || x == y
  | a, b =>
    match a.size?, b.size? with
    | some .undefined, some _ => false
    | some _, some .undefined => false
    | _, _ => a.compare? b = some .eq

def showByte (quote : Char) (b : UInt8) : List Char :=
  if b.toNat < 0x80 then Text.Quoted.escape quote (Char.ofNat b.toNat)
  else Text.Quoted.numericEscape b.toNat

/-- Bytes in a message: those of ASCII as their characters. -/
def showBytes (bs : List UInt8) : String :=
  let quote := Text.Quoted.mark (bs.map fun b => Char.ofNat b.toNat)
  String.ofList ('b' :: quote :: bs.flatMap (showByte quote) ++ [quote])

def shown : Atom → Except Decimal.TooLong String
  | null => .ok "None"
  | bool true => .ok "True"
  | bool false => .ok "False"
  | int n => Decimal.showInt n
  | float x => .ok (Decimal.inMessages.render x)
  | bytes bs => .ok (showBytes bs)
  | timestamp t => .ok t.shown
  | string s => .ok s

end Atom

end Cnd.Yaml
