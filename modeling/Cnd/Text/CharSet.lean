/-!
# Sets of characters

A set of characters is the list of its ranges of code points in ascending order. Looking a
character up stops at the first range that lies above it, so the ASCII characters of a large
set are found among its first few ranges.
-/

namespace Cnd.Text

/-- Is `n` in one of the ranges? They are in ascending order, both ends included. -/
def inRanges : List (Nat × Nat) → Nat → Bool
  | [], _ => false
  | (low, high) :: rest, n => low ≤ n && (n ≤ high || inRanges rest n)

/-- A set of characters, given by ascending ranges of code points. -/
structure CharSet where
  ranges : List (Nat × Nat)

namespace CharSet

def contains (s : CharSet) (c : Char) : Bool := inRanges s.ranges c.toNat

end CharSet

/-- A member lies in one of the ranges. -/
theorem exists_range_of_inRanges {rs : List (Nat × Nat)} {n : Nat} (h : inRanges rs n) :
    ∃ r ∈ rs, r.1 ≤ n ∧ n ≤ r.2 := by
  induction rs with
  | nil => simp [inRanges] at h
  | cons r rest ih =>
    simp only [inRanges, Bool.and_eq_true, decide_eq_true_eq, Bool.or_eq_true] at h
    rcases h with ⟨hlow, hhigh | hrest⟩
    · exact ⟨r, by simp, hlow, hhigh⟩
    · obtain ⟨q, hq, hn⟩ := ih hrest
      exact ⟨q, by simp [hq], hn⟩

end Cnd.Text
