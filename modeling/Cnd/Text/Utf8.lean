import Cnd.Text.Quoted

/-!
# Decoding UTF-8

The text that bytes stand for, or the first character in them that is not well formed. A
character of several bytes begins with a lead byte, which tells how many continuation bytes
follow and which of them may come first: this is what rules out overlong forms, surrogates
and code points beyond the last one.
-/

namespace Cnd.Text.Utf8

/-- What is wrong with the bytes of a character. -/
inductive Flaw where
  | badStart
  /-- The byte behind its first bytes does not continue it. -/
  | badContinuation
  | cutOff
deriving DecidableEq, Repr

def Flaw.text : Flaw → String
  | badStart => "invalid start byte"
  | badContinuation => "invalid continuation byte"
  | cutOff => "unexpected end of data"

/-- Where bytes stop to be UTF-8: the character that is not well formed, as far as it could
be one. -/
structure Fault where
  lead : UInt8
  start : Nat
  size : Nat
  flaw : Flaw
deriving DecidableEq, Repr

def Fault.message (f : Fault) : String :=
  let place :=
    if f.size ≤ 1 then
      let byte := String.ofList (hexDigits 2 f.lead.toNat)
      s!"byte 0x{byte} in position {f.start}"
    else s!"bytes in position {f.start}-{f.start + f.size - 1}"
  s!"'utf-8' codec can't decode {place}: {f.flaw.text}"

/-- A character whose first bytes were read. -/
structure Partial where
  lead : UInt8
  size : Nat
  low : UInt8
  high : UInt8
  more : Nat

/-- The character that begins with a lead byte. -/
def Partial.ofLead? (lead : UInt8) : Option Partial :=
  if lead < 0xC2 then none
  else if lead < 0xE0 then some ⟨lead, 1, 0x80, 0xBF, 0⟩
  else if lead = 0xE0 then some ⟨lead, 1, 0xA0, 0xBF, 1⟩
  else if lead = 0xED then some ⟨lead, 1, 0x80, 0x9F, 1⟩
  else if lead < 0xF0 then some ⟨lead, 1, 0x80, 0xBF, 1⟩
  else if lead = 0xF0 then some ⟨lead, 1, 0x90, 0xBF, 2⟩
  else if lead < 0xF4 then some ⟨lead, 1, 0x80, 0xBF, 2⟩
  else if lead = 0xF4 then some ⟨lead, 1, 0x80, 0x8F, 2⟩
  else none

/-- The first fault in bytes that begin `start` bytes behind the beginning, in the middle of
the character `current` if there is one. Bytes without a fault count as cut off at their
end. -/
def firstFault (start : Nat) (current : Option Partial) : List UInt8 → Fault
  | [] =>
    match current with
    | none => ⟨0, start, 0, .cutOff⟩
    | some c => ⟨c.lead, start, c.size, .cutOff⟩
  | b :: rest =>
    match current with
    | none =>
      if b < 0x80 then firstFault (start + 1) none rest
      else
        match Partial.ofLead? b with
        | none => ⟨b, start, 1, .badStart⟩
        | some c => firstFault start (some c) rest
    | some c =>
      if b < c.low ∨ c.high < b then ⟨c.lead, start, c.size, .badContinuation⟩
      else
        match c.more with
        | 0 => firstFault (start + c.size + 1) none rest
        | more + 1 => firstFault start (some ⟨c.lead, c.size + 1, 0x80, 0xBF, more⟩) rest

/-- The text that the bytes stand for. -/
def decode (bytes : ByteArray) : Except Fault String :=
  match String.fromUTF8? bytes with
  | some s => .ok s
  | none => .error (firstFault 0 none bytes.toList)

/-- Every text is what its own bytes stand for. -/
@[simp] theorem decode_toUTF8 (s : String) : decode s.toUTF8 = .ok s := by
  have h : String.fromUTF8? s.toUTF8 = some s := by
    rw [String.fromUTF8?]
    exact dif_pos s.isValidUTF8
  rw [decode, h]

end Cnd.Text.Utf8
