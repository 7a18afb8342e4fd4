/-!
# Base 64

Bytes written in characters of six bits each, four characters for three bytes, and signs to
fill up the last four. Characters that are no part of the code are passed over.
-/

namespace Cnd.Text.Base64

/-- The six bits a character stands for. -/
def sextet? (c : Char) : Option Nat :=
  if 'A' ≤ c ∧ c ≤ 'Z' then some (c.toNat - 'A'.toNat)
  else if 'a' ≤ c ∧ c ≤ 'z' then some (c.toNat - 'a'.toNat + 26)
  else if c.isDigit then some (c.toNat - '0'.toNat + 52)
  else if c = '+' then some 62
  else if c = '/' then some 63
  else none

structure State where
  done : List UInt8 := []
  /-- How many characters of the present four have been read. -/
  place : Nat := 0
  /-- The bits of the last character that are not in a byte yet. -/
  left : Nat := 0
  filling : Nat := 0

def State.take (s : State) (n : Nat) : State :=
  match s.place with
  | 0 => ⟨s.done, 1, n, 0⟩
  | 1 => ⟨(s.left * 4 + n / 16).toUInt8 :: s.done, 2, n % 16, 0⟩
  | 2 => ⟨(s.left * 16 + n / 4).toUInt8 :: s.done, 3, n % 4, 0⟩
  | _ => ⟨(s.left * 64 + n).toUInt8 :: s.done, 0, 0, 0⟩

/-- The bytes of the rest of a text. Where enough signs have filled up four characters it ends,
whatever follows; elsewhere it must not end inside of four. -/
def decodeFrom (s : State) : List Char → Option (List UInt8)
  | [] => if s.place = 0 then some s.done.reverse else none
  | c :: rest =>
    if c = '=' then
      if 2 ≤ s.place then
        if 4 ≤ s.place + s.filling + 1 then some s.done.reverse
        else decodeFrom { s with filling := s.filling + 1 } rest
      else decodeFrom s rest
    else
      match sextet? c with
      | some n => decodeFrom (s.take n) rest
      | none => decodeFrom s rest

/-- The bytes that a text stands for. -/
def decode (cs : List Char) : Option (List UInt8) := decodeFrom {} cs

end Cnd.Text.Base64
