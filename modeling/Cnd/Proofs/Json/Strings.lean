import Cnd.Json.Printer
import Cnd.Proofs.Json.Spelling

/-!
# What is printed for a string spells it

The printer writes a character as it is, in its short escape, or in the hexadecimal digits of its
units, and each of these is a spelling of the character (`spelled_flatMap`).
-/

namespace Cnd.Json

variable {s cs : List Char} {c : Char}

theorem unitText_hexDigits {n : Nat} (hn : n < 0x10000) : UnitText n (Text.hexDigits 4 n) := by
  have hdigit (m : Nat) : HexDigit (m % 16) (Nat.digitChar (m % 16)) :=
    ⟨Nat.mod_lt _ (by decide), .inl rfl⟩
  have htext := UnitText.digits (hdigit (n / 16 / 16 / 16)) (hdigit (n / 16 / 16))
    (hdigit (n / 16)) (hdigit n)
  have hsum : ((n / 16 / 16 / 16 % 16 * 16 + n / 16 / 16 % 16) * 16 + n / 16 % 16) * 16 + n % 16 =
      n := by omega
  rwa [hsum] at htext

/-- A character of 16 bits is spelled by its unit. -/
theorem spelled_unit (hc : c.toNat < 0x10000) (h : Spelled s cs) :
    Spelled (c :: s) (unitEscape c.toNat ++ cs) := by
  refine .unit (unitText_hexDigits hc) (.inl rfl) (fun hhigh => ?_) h
  exact absurd ⟨hhigh.1, Nat.le_trans hhigh.2 (by decide)⟩ (not_surrogate c)

/-- Another character is spelled by its two halves. -/
theorem spelled_pair (hc : ¬ c.toNat < 0x10000) (h : Spelled s cs) :
    Spelled (c :: s) (unitEscape (0xD800 + (c.toNat - 0x10000) / 0x400) ++
      unitEscape (0xDC00 + (c.toNat - 0x10000) % 0x400) ++ cs) := by
  have hmax : c.toNat < 0x110000 := by
    rcases c.valid with hlow | ⟨-, hhigh⟩
    · exact Nat.lt_trans hlow (by decide)
    · exact hhigh
  rw [List.append_assoc]
  refine .pair (unitText_hexDigits ?_) ?_ (unitText_hexDigits ?_) ?_ ?_ h
  · omega
  · rw [IsHigh]
    omega
  · omega
  · rw [IsLow]
    omega
  · omega

theorem spelled_escape (c : Char) (h : Spelled s cs) : Spelled (c :: s) (escape c ++ cs) := by
  have hshort {d e : Char} (hd : c = d) (he : (e, d) ∈ shortEscapes) :
      Spelled (c :: s) (['\\', e] ++ cs) := by
    subst hd
    exact .short he h
  unfold escape
  iterate 7
    split
    · rename_i hd
      exact hshort hd (by decide)
  split
  · rename_i hquote hslash _ _ _ _ _ hplain
    exact .plain hquote hslash hplain.1 h
  split
  · exact spelled_unit ‹_› h
  · exact spelled_pair ‹_› h

/-- What is printed for a string is a spelling of it. -/
theorem spelled_flatMap (s : List Char) : Spelled s (s.flatMap escape) := by
  induction s with
  | nil => exact .nil
  | cons c s ih => exact spelled_escape c ih

end Cnd.Json
