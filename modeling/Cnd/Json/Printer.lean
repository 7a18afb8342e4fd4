import Cnd.Decimal.Layout
import Cnd.Json.Basic
import Cnd.Text.Quoted

/-!
# Writing JSON

The text of a JSON value in ASCII: characters outside it are written as escapes of their
16-bit units. Without an indent the text has no blanks at all; with one, every item and
member stands on a line of its own, indented by its depth.
-/

namespace Cnd.Json

/-! ## Strings -/

def unitEscape (n : Nat) : List Char := '\\' :: 'u' :: Text.hexDigits 4 n

def escape (c : Char) : List Char :=
  if c = '\x22' then ['\\', '\x22']
  else if c = '\\' then ['\\', '\\']
  else if c = '\n' then ['\\', 'n']
  else if c = '\r' then ['\\', 'r']
  else if c = '\t' then ['\\', 't']
  else if c = '\x08' then ['\\', 'b']
  else if c = '\x0c' then ['\\', 'f']
  else if ' ' ≤ c ∧ c ≤ '~' then [c]
  else if c.toNat < 0x10000 then unitEscape c.toNat
  else unitEscape (0xD800 + (c.toNat - 0x10000) / 0x400) ++
    unitEscape (0xDC00 + (c.toNat - 0x10000) % 0x400)

def renderString (s : String) : List Char := '\x22' :: s.toList.flatMap escape ++ ['\x22']

/-! ## Values -/

/-- Floating-point numbers: written with the fewest digits, and with their own words for
infinity and the undefined value. -/
def renderFloat (x : Float) : List Char :=
  if x.isNaN then ['N', 'a', 'N']
  else if x.isInf then (if x < 0 then ['-'] else []) ++ ['I', 'n', 'f', 'i', 'n', 'i', 't', 'y']
  else (Decimal.inMessages.render x).toList

/-- What stands before an item at the given depth: nothing, or a new line. -/
def lineStart (indent : Option Nat) (depth : Nat) : List Char :=
  match indent with
  | none => []
  | some n => '\n' :: List.replicate (n * depth) ' '

/-- What stands between a member's name and its value. -/
def colon (indent : Option Nat) : List Char := if indent.isSome then [':', ' '] else [':']

mutual

/-- The text of a value whose first line is at the given depth. -/
def renderAt (indent : Option Nat) (depth : Nat) : Json → List Char
  | null => ['n', 'u', 'l', 'l']
  | bool true => ['t', 'r', 'u', 'e']
  | bool false => ['f', 'a', 'l', 's', 'e']
  | int n => (toString n).toList
  | float x => renderFloat x
  | string s => renderString s
  | array [] => ['[', ']']
  | array (v :: rest) =>
    '[' :: lineStart indent (depth + 1) ++ renderAt indent (depth + 1) v ++
      (renderItems indent (depth + 1) rest ++ lineStart indent depth ++ [']'])
  | object [] => ['\x7b', '\x7d']
  | object ((k, v) :: rest) =>
    '\x7b' :: lineStart indent (depth + 1) ++ renderString k ++ colon indent ++
      renderAt indent (depth + 1) v ++
      (renderMembers indent (depth + 1) rest ++ lineStart indent depth ++ ['\x7d'])

def renderItems (indent : Option Nat) (depth : Nat) : List Json → List Char
  | [] => []
  | v :: rest =>
    ',' :: lineStart indent depth ++ renderAt indent depth v ++ renderItems indent depth rest

def renderMembers (indent : Option Nat) (depth : Nat) : List (String × Json) → List Char
  | [] => []
  | (k, v) :: rest =>
    ',' :: lineStart indent depth ++ renderString k ++ colon indent ++ renderAt indent depth v ++
      renderMembers indent depth rest

end

/-- The text of a value, compact or indented by so many spaces a level. -/
def render (indent : Option Nat) (v : Json) : String := String.ofList (renderAt indent 0 v)

end Cnd.Json
