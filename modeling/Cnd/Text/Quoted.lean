import Cnd.Text.Printable

/-!
# Quoted texts

How a message shows a text whose ends and special characters must be visible: between
quotes, with backslash escapes for quotes, backslashes and everything that is not printable.
The quote is the apostrophe unless the text holds an apostrophe and no double quote.
-/

namespace Cnd.Text

/-- The last `width` hexadecimal digits of `n`, in lower case. -/
def hexDigits : Nat → Nat → List Char
  | 0, _ => []
  | width + 1, n => hexDigits width (n / 16) ++ [Nat.digitChar (n % 16)]

namespace Quoted

/-- The shortest numeric escape that holds the code point. -/
def numericEscape (n : Nat) : List Char :=
  if n ≤ 0xFF then '\\' :: 'x' :: hexDigits 2 n
  else if n ≤ 0xFFFF then '\\' :: 'u' :: hexDigits 4 n
  else '\\' :: 'U' :: hexDigits 8 n

/-- One character as it stands between two of `quote`. -/
def escape (quote c : Char) : List Char :=
  if c = quote ∨ c = '\\' then ['\\', c]
  else if c = '\n' then ['\\', 'n']
  else if c = '\r' then ['\\', 'r']
  else if c = '\t' then ['\\', 't']
  else if isPrintable c then [c]
  else numericEscape c.toNat

/-- The quote to put around a text: the double quote only where that saves escapes. -/
def mark (cs : List Char) : Char :=
  if cs.contains '\x27' ∧ ¬ cs.contains '\x22' then '\x22' else '\x27'

end Quoted

/-- The text between quotes, with its special characters escaped. -/
def quoted (s : String) : String :=
  let cs := s.toList
  let q := Quoted.mark cs
  String.ofList (q :: cs.flatMap (Quoted.escape q) ++ [q])

end Cnd.Text
