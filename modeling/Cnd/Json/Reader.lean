import Cnd.Decimal.Numeral
import Cnd.Json.Basic
import Cnd.Position

/-!
# Reading JSON

The reader takes the JSON grammar with three words more, for the floating-point values that
have no digits. It works on the characters that are left, and a fault in the grammar is noted
as the number of characters from it to the end, from which `read` finds its position.

Nesting is bounded by the number of characters, twice which `read` hands down as fuel: a nested
value takes at least one character, and two steps down.
-/

namespace Cnd.Json

/-- What is wrong with a JSON text. -/
inductive SyntaxError.Cause where
  | expectedValue
  | expectedName
  | expectedColon
  | expectedComma
  | extraData
  | unterminatedString
  | controlCharacter
  | badEscape
  | badUnicodeEscape
  | byteOrderMark
deriving DecidableEq, Repr

/-- A fault in a JSON text, and its place. -/
structure SyntaxError where
  cause : SyntaxError.Cause
  position : Position
deriving DecidableEq, Repr

namespace SyntaxError

def Cause.text : Cause → String
  | expectedValue => "Expecting value"
  | expectedName => "Expecting property name enclosed in double quotes"
  | expectedColon => "Expecting ':' delimiter"
  | expectedComma => "Expecting ',' delimiter"
  | extraData => "Extra data"
  | unterminatedString => "Unterminated string starting at"
  | controlCharacter => "Invalid control character at"
  | badEscape => "Invalid \\escape"
  | badUnicodeEscape => "Invalid \\uXXXX escape"
  | byteOrderMark => "Unexpected UTF-8 BOM (decode using utf-8-sig)"

def message (e : SyntaxError) : String :=
  s!"{e.cause.text}: line {e.position.line} column {e.position.column} (char {e.position.offset})"

end SyntaxError

inductive ReadError where
  | grammar (e : SyntaxError)
  | number (e : Decimal.TooLong)
deriving DecidableEq, Repr

inductive Fault where
  /-- The grammar is broken: in what way, and how many characters there are from the fault to
  the end of the text. -/
  | grammar (cause : SyntaxError.Cause) (remaining : Nat)
  | number (e : Decimal.TooLong)
deriving DecidableEq, Repr

/-- The fault that the characters `cs` start with. -/
def faultAt {α : Type} (cause : SyntaxError.Cause) (cs : List Char) : Except Fault α :=
  .error (.grammar cause cs.length)

/-- The characters that may stand between the parts of a value. -/
def isSpace (c : Char) : Bool := c = ' ' || c = '\t' || c = '\n' || c = '\r'

def skipSpace (cs : List Char) : List Char := cs.dropWhile isSpace

/-! ## Strings -/

def hexValue? (c : Char) : Option Nat :=
  if c.isDigit then some (c.toNat - '0'.toNat)
  else if 'a' ≤ c ∧ c ≤ 'f' then some (c.toNat - 'a'.toNat + 10)
  else if 'A' ≤ c ∧ c ≤ 'F' then some (c.toNat - 'A'.toNat + 10)
  else none

/-- The 16-bit unit of four hexadecimal digits. At least one character must follow them. -/
def readUnit? : List Char → Option (Nat × List Char)
  | a :: b :: c :: d :: e :: rest => do
    let a ← hexValue? a
    let b ← hexValue? b
    let c ← hexValue? c
    let d ← hexValue? d
    return (((a * 16 + b) * 16 + c) * 16 + d, e :: rest)
  | _ => none

/-- The character of a unit. In JSON a unit may be half of a surrogate pair whose other half is not
there. The texts of this library are made of characters and cannot hold it, so U+FFFD is put in its
place: what is said of a text with such an escape holds with U+FFFD for it, and no further. -/
def charOfUnit (n : Nat) : Char :=
  if 0xD800 ≤ n ∧ n ≤ 0xDFFF then '\ufffd' else Char.ofNat n

/-- Reads a unicode escape from behind its `\u`: one unit, or a pair of two that together
make one character. -/
def readUnicode (cs : List Char) : Except Fault (Char × List Char) :=
  match readUnit? cs with
  | none => .error (.grammar .badUnicodeEscape (cs.length + 1))
  | some (high, rest) =>
    match rest with
    | '\\' :: 'u' :: more =>
      if 0xD800 ≤ high ∧ high ≤ 0xDBFF then
        match readUnit? more with
        | none => .error (.grammar .badUnicodeEscape (more.length + 1))
        | some (low, behind) =>
          if 0xDC00 ≤ low ∧ low ≤ 0xDFFF then
            .ok (Char.ofNat (0x10000 + (high - 0xD800) * 0x400 + (low - 0xDC00)), behind)
          else .ok (charOfUnit high, rest)
      else .ok (charOfUnit high, rest)
    | _ => .ok (charOfUnit high, rest)

theorem length_readUnit? {cs rest : List Char} {n : Nat} (h : readUnit? cs = some (n, rest)) :
    rest.length < cs.length := by
  rw [readUnit?.eq_def] at h
  split at h
  · simp only [Option.bind_eq_bind, Option.bind_eq_some_iff] at h
    obtain ⟨_, _, _, _, _, _, _, _, h⟩ := h
    cases h
    simp only [List.length_cons]
    omega
  · simp at h

theorem length_readUnicode {cs rest : List Char} {c : Char}
    (h : readUnicode cs = .ok (c, rest)) : rest.length < cs.length := by
  rw [readUnicode] at h
  split at h
  · simp at h
  · rename_i hu
    have h1 := length_readUnit? hu
    split at h
    · split at h
      · split at h
        · simp at h
        · rename_i hl
          have h2 := length_readUnit? hl
          simp only [List.length_cons] at h1
          split at h
          · obtain ⟨_, rfl⟩ := Prod.mk.inj (Except.ok.inj h)
            omega
          · obtain ⟨_, rfl⟩ := Prod.mk.inj (Except.ok.inj h)
            simp only [List.length_cons]
            omega
      · obtain ⟨_, rfl⟩ := Prod.mk.inj (Except.ok.inj h)
        exact h1
    · obtain ⟨_, rfl⟩ := Prod.mk.inj (Except.ok.inj h)
      exact h1

/-- What the character behind a backslash stands for. -/
def unescape? : Char → Option Char
  | '\x22' => some '\x22'
  | '\\' => some '\\'
  | '/' => some '/'
  | 'b' => some '\x08'
  | 'f' => some '\x0c'
  | 'n' => some '\n'
  | 'r' => some '\r'
  | 't' => some '\t'
  | _ => none

/-- Reads a string from behind its opening quote, with which `opening` starts. `content` holds
the characters read so far, the last one first. -/
def readString (opening content cs : List Char) : Except Fault (String × List Char) :=
  match cs with
  | [] => faultAt .unterminatedString opening
  | '\x22' :: rest => .ok (String.ofList content.reverse, rest)
  | '\\' :: rest =>
    match rest with
    | [] => faultAt .unterminatedString opening
    | 'u' :: digits =>
      match _h : readUnicode digits with
      | .error e => .error e
      | .ok (c, behind) => readString opening (c :: content) behind
    | e :: behind =>
      match unescape? e with
      | none => faultAt .badEscape cs
      | some c => readString opening (c :: content) behind
  | c :: rest =>
    if c < ' ' then faultAt .controlCharacter cs else readString opening (c :: content) rest
termination_by cs.length
decreasing_by
  · have := length_readUnicode _h
    simp only [List.length_cons]
    omega
  · simp only [List.length_cons]
    omega
  · simp

/-! ## Numbers -/

/-- The digits at the front, and what follows them. -/
def spanDigits (cs : List Char) : List Char × List Char :=
  (cs.takeWhile Char.isDigit, cs.dropWhile Char.isDigit)

/-- The minus sign at the front, if there is one, and what follows it. -/
def readSign : List Char → Bool × List Char
  | '-' :: rest => (true, rest)
  | cs => (false, cs)

/-- The sign of an exponent, which may be a plus as well. -/
def readExponentSign : List Char → Bool × List Char
  | '+' :: rest => (false, rest)
  | cs => readSign cs

/-- The fraction at the front, if a digit follows the point. -/
def readFraction (cs : List Char) : Option (List Char × List Char) :=
  match cs with
  | '.' :: rest =>
    let (ds, behind) := spanDigits rest
    if ds.isEmpty then none else some (ds, behind)
  | _ => none

/-- The exponent at the front, if it has a digit. -/
def readExponent (cs : List Char) : Option (Int × List Char) :=
  match cs with
  | e :: rest =>
    if e = 'e' ∨ e = 'E' then
      let (negative, digits) := readExponentSign rest
      let (ds, behind) := spanDigits digits
      if ds.isEmpty then none
      else
        let n : Int := Decimal.natOfDigits 10 ds
        some (if negative then -n else n, behind)
    else none
  | [] => none

/-- The digits at the front, none of them behind a zero that comes first. -/
def readWhole : List Char → Option (List Char × List Char)
  | '0' :: rest => some (['0'], rest)
  | c :: rest => if c.isDigit then some (spanDigits (c :: rest)) else none
  | [] => none

/-- Reads a number: an integer, or with a fraction or an exponent a floating-point number. -/
def readNumber (cs : List Char) : Except Fault (Json × List Char) :=
  let (negative, unsigned) := readSign cs
  match readWhole unsigned with
  | none => faultAt .expectedValue cs
  | some (whole, behind) =>
    let fraction := readFraction behind
    let behind := (fraction.map (·.2)).getD behind
    let exponent := readExponent behind
    let behind := (exponent.map (·.2)).getD behind
    if fraction.isNone ∧ exponent.isNone then
      match Decimal.readNat whole with
      | .ok (n : Nat) => .ok (.int (if negative then -n else n), behind)
      | .error e => .error (.number e)
    else
      let x := Decimal.floatOfDigits whole ((fraction.map (·.1)).getD [])
        ((exponent.map (·.1)).getD 0)
      .ok (.float (if negative then -x else x), behind)

/-! ## Values -/

mutual

def readValue (fuel : Nat) (cs : List Char) : Except Fault (Json × List Char) :=
  match fuel with
  | 0 => faultAt .expectedValue cs
  | fuel + 1 =>
    match cs with
    | '\x22' :: rest => do
      let (s, behind) ← readString cs [] rest
      return (.string s, behind)
    | '\x7b' :: rest =>
      match skipSpace rest with
      | '\x7d' :: behind => .ok (.object [], behind)
      | inside => do
        let (members, behind) ← readMembers fuel inside
        return (.object (distinct members), behind)
    | '[' :: rest =>
      match skipSpace rest with
      | ']' :: behind => .ok (.array [], behind)
      | inside => do
        let (items, behind) ← readItems fuel inside
        return (.array items, behind)
    | 'n' :: 'u' :: 'l' :: 'l' :: behind => .ok (.null, behind)
    | 't' :: 'r' :: 'u' :: 'e' :: behind => .ok (.bool true, behind)
    | 'f' :: 'a' :: 'l' :: 's' :: 'e' :: behind => .ok (.bool false, behind)
    | 'N' :: 'a' :: 'N' :: behind => .ok (.float (0 / 0), behind)
    | 'I' :: 'n' :: 'f' :: 'i' :: 'n' :: 'i' :: 't' :: 'y' :: behind =>
      .ok (.float (1 / 0), behind)
    | '-' :: 'I' :: 'n' :: 'f' :: 'i' :: 'n' :: 'i' :: 't' :: 'y' :: behind =>
      .ok (.float (-1 / 0), behind)
    | _ => readNumber cs

/-- Reads the items of an array up to its end. -/
def readItems (fuel : Nat) (cs : List Char) : Except Fault (List Json × List Char) :=
  match fuel with
  | 0 => faultAt .expectedValue cs
  | fuel + 1 => do
    let (v, behind) ← readValue fuel cs
    match skipSpace behind with
    | ']' :: behind => return ([v], behind)
    | ',' :: more =>
      let (vs, behind) ← readItems fuel (skipSpace more)
      return (v :: vs, behind)
    | other => faultAt .expectedComma other

/-- Reads the members of an object up to its end. -/
def readMembers (fuel : Nat) (cs : List Char) : Except Fault (List (String × Json) × List Char) :=
  match fuel with
  | 0 => faultAt .expectedName cs
  | fuel + 1 =>
    match cs with
    | '\x22' :: rest => do
      let (k, behind) ← readString cs [] rest
      match skipSpace behind with
      | ':' :: more =>
        let (v, behind) ← readValue fuel (skipSpace more)
        match skipSpace behind with
        | '\x7d' :: behind => return ([(k, v)], behind)
        | ',' :: more =>
          let (vs, behind) ← readMembers fuel (skipSpace more)
          return ((k, v) :: vs, behind)
        | other => faultAt .expectedComma other
      | other => faultAt .expectedColon other
    | _ => faultAt .expectedName cs

end

/-- Reads a whole text, which may have spaces around its one value. -/
def readAll (cs : List Char) : Except Fault Json := do
  if cs.head? = some '\ufeff' then faultAt .byteOrderMark cs
  let (v, behind) ← readValue (2 * cs.length + 2) (skipSpace cs)
  let extra := skipSpace behind
  if extra.isEmpty then return v else faultAt .extraData extra

/-- Reads a whole text and finds the place of a fault. -/
def read (s : String) : Except ReadError Json :=
  let cs := s.toList
  (readAll cs).mapError fun
    | .grammar cause remaining =>
      .grammar ⟨cause, Position.start.after (cs.take (cs.length - remaining))⟩
    | .number e => .number e

end Cnd.Json
