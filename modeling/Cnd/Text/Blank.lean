import Cnd.Text.CharSet

/-!
# Blank characters

The characters that separate tokens and that trimming removes: the Unicode characters of
bidirectional class WS, B or S and the space separators. This is wider than the four
characters of `Char.isWhitespace`, all of which it contains (`isBlank_of_isWhitespace`).
-/

namespace Cnd.Text

/-- The blank characters: controls, the ASCII separators 0x1C to 0x1F, and the Unicode
spaces and line ends. -/
def blanks : CharSet where
  ranges := [
    (0x9, 0xD), (0x1C, 0x20), (0x85, 0x85), (0xA0, 0xA0), (0x1680, 0x1680), (0x2000, 0x200A),
    (0x2028, 0x2029), (0x202F, 0x202F), (0x205F, 0x205F), (0x3000, 0x3000)]

def isBlank (c : Char) : Bool := blanks.contains c

theorem isBlank_of_isWhitespace {c : Char} (h : c.isWhitespace) : isBlank c := by
  simp only [Char.isWhitespace, Bool.or_eq_true, decide_eq_true_eq] at h
  rcases h with ((rfl | rfl) | rfl) | rfl <;> decide

end Cnd.Text
