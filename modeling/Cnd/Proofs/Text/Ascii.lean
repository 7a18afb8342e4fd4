import Cnd.Text.Fold
import Cnd.Text.Upper
import Mathlib.Data.List.Basic

/-!
# Case maps and ASCII

Two spellings of an ASCII word can be compared by their upper case or by what they fold to, and
nearly always to the same effect. Few characters that are not ASCII themselves become ASCII under
one of the two maps (`guests`), and two of these tell the maps apart: the dotless i, which has an
ASCII letter as its capital and folds to itself, and the Kelvin sign, which is a capital already and
folds to an ASCII letter (`upper_eq_iff`, `casefold_eq_iff`).

What the tables of the maps hold is decided run by run, not character by character.
-/

namespace Cnd.Text

/-- All of the characters are ASCII. -/
def IsAscii (cs : List Char) : Prop := ∀ c ∈ cs, c.toNat < 128

instance (cs : List Char) : Decidable (IsAscii cs) := List.decidableBAll _ cs

theorem isAscii_flatMap {f : Char → List Char} {cs : List Char} :
    IsAscii (cs.flatMap f) ↔ ∀ c ∈ cs, IsAscii (f c) := by
  simp only [IsAscii, List.mem_flatMap, forall_exists_index, and_imp]
  exact ⟨fun h c hc d hd => h d c hc hd, fun h d c hc hd => h c hc d hd⟩

theorem IsAscii.map {cs : List Char} (h : IsAscii cs) {f : Char → Char}
    (hf : ∀ c : Char, c.toNat < 128 → (f c).toNat < 128) : IsAscii (cs.map f) := by
  intro d hd
  obtain ⟨c, hc, rfl⟩ := List.mem_map.1 hd
  exact hf c (h c hc)

/-- What holds of each ASCII character is decided. -/
theorem forall_ascii {p : Char → Prop} (h : ∀ n < 128, p (Char.ofNat n)) {c : Char}
    (hc : c.toNat < 128) : p c := by
  have := h c.toNat hc
  rwa [Char.ofNat_toNat] at this

theorem toNat_ofNat {n : Nat} (h : n.isValidChar) : (Char.ofNat n).toNat = n := by
  rw [Char.ofNat, dif_pos h]
  rfl

/-! ## Characters that become ASCII -/

/-- The characters that are not ASCII and come out so when they are put in upper case or folded: the
two sharp s, the dotless i, the long s, the Kelvin sign and seven ligatures. -/
def guests : List Nat :=
  [0xDF, 0x131, 0x17F, 0x1E9E, 0x212A, 0xFB00, 0xFB01, 0xFB02, 0xFB03, 0xFB04, 0xFB05, 0xFB06]

namespace CaseMap

theorem exists_of_offset? {runs : List CaseRun} {n : Nat} {d : Int} (h : offset? runs n = some d) :
    ∃ r ∈ runs, r.first ≤ n ∧ n ≤ r.last ∧ r.offset = d := by
  fun_induction offset? runs n with
  | case1 => cases h
  | case2 => cases h
  | case3 r rest n hfirst hrun =>
    exact ⟨r, List.mem_cons_self, by omega, hrun.1, Option.some.inj h⟩
  | case4 r rest n hfirst hrun ih =>
    obtain ⟨q, hq, hn⟩ := ih h
    exact ⟨q, List.mem_cons_of_mem _ hq, hn⟩

/-- A character that the run holds is ASCII or a guest, or does not become ASCII: what the run moves
it to is a character further on. -/
def RunApart (r : CaseRun) : Prop :=
  r.last < 128 ∨ (r.first = r.last ∧ r.first ∈ guests) ∨
    (128 ≤ r.first + r.offset ∧ r.last + r.offset < 0xD800) ∨
    (0xE000 ≤ r.first + r.offset ∧ r.last + r.offset < 0x110000)

/-- A character that expands so is a guest, or one of those it becomes is not ASCII. -/
def ExpansionApart (e : Nat × List Nat) : Prop :=
  e.1 ∈ guests ∨ ∃ n ∈ e.2, 128 ≤ n ∧ n < 0xD800

instance (r : CaseRun) : Decidable (RunApart r) :=
  inferInstanceAs (Decidable (_ ∨ _ ∨ _ ∨ _))

instance (e : Nat × List Nat) : Decidable (ExpansionApart e) :=
  inferInstanceAs (Decidable (_ ∨ ∃ n ∈ e.2, 128 ≤ n ∧ n < 0xD800))

/-- Only guests become ASCII. -/
theorem of_isAscii_char {m : CaseMap} (hruns : ∀ r ∈ m.runs, RunApart r)
    (hexpansions : ∀ e ∈ m.expansions, ExpansionApart e) {c : Char} (h : IsAscii (m.char c)) :
    c.toNat < 128 ∨ c.toNat ∈ guests := by
  unfold char at h
  split at h
  · rename_i d hd
    obtain ⟨r, hr, hfirst, hlast, rfl⟩ := exists_of_offset? hd
    have hascii := h _ (List.mem_singleton_self _)
    rcases hruns r hr with hrun | ⟨heq, hguest⟩ | hrun | hrun
    · omega
    · have hc : c.toNat = r.first := by omega
      exact .inr (hc ▸ hguest)
    · have hvalid : (c.toNat + r.offset).toNat.isValidChar := .inl (by omega)
      rw [toNat_ofNat hvalid] at hascii
      omega
    · have hvalid : (c.toNat + r.offset).toNat.isValidChar := .inr (by omega)
      rw [toNat_ofNat hvalid] at hascii
      omega
  · split at h
    · rename_i e he
      rcases hexpansions _ (mem_of_expansion? he) with hguest | ⟨n, hn, hlow, hhigh⟩
      · exact .inr hguest
      · have hascii := h _ (List.mem_map_of_mem hn)
        rw [toNat_ofNat (.inl hhigh)] at hascii
        omega
    · exact .inl (h c (List.mem_singleton_self c))

end CaseMap

theorem of_isAscii_uppercase {c : Char} (h : IsAscii (uppercase.char c)) :
    c.toNat < 128 ∨ c.toNat ∈ guests :=
  CaseMap.of_isAscii_char (by decide +kernel) (by decide +kernel) h

theorem of_isAscii_folding {c : Char} (h : IsAscii (folding.char c)) :
    c.toNat < 128 ∨ c.toNat ∈ guests :=
  CaseMap.of_isAscii_char (by decide +kernel) (by decide +kernel) h

/-! ## Characters under both maps -/

/-- The dotless i counts as an i. -/
def undot (c : Char) : Char := if c = '\u0131' then 'i' else c

/-- The Kelvin sign and the capital sharp s are capitals already, and fold to ASCII letters. -/
def isCapitalGuest (c : Char) : Bool := c = '\u212a' || c = '\u1e9e'

section Char

variable {c : Char}

/-- What holds of each ASCII character and of each guest is decided. -/
theorem forall_ascii_guests {p : Char → Prop} (h : ∀ n < 128, p (Char.ofNat n))
    (h' : ∀ n ∈ guests, p (Char.ofNat n)) (hc : c.toNat < 128 ∨ c.toNat ∈ guests) : p c := by
  rcases hc with hc | hc
  · exact forall_ascii h hc
  · have := h' c.toNat hc
    rwa [Char.ofNat_toNat] at this

/-- A character with ASCII capitals folds to the small letters of these, but for the dot. -/
theorem folding_undot (h : IsAscii (uppercase.char c)) : isCapitalGuest c = false ∧
    folding.char (undot c) = (uppercase.char c).map Char.toLower := by
  have hchecked := forall_ascii_guests
    (p := fun c => IsAscii (uppercase.char c) → isCapitalGuest c = false ∧
      folding.char (undot c) = (uppercase.char c).map Char.toLower)
    (by decide +kernel) (by decide +kernel) (of_isAscii_uppercase h)
  exact hchecked h

/-- A character that folds to ASCII and is no capital guest has the capitals of what it folds to. -/
theorem uppercase_eq (h : IsAscii (folding.char (undot c))) (hc : isCapitalGuest c = false) :
    uppercase.char c = (folding.char (undot c)).map Char.toUpper := by
  have hmem : c.toNat < 128 ∨ c.toNat ∈ guests := by
    by_cases hdotless : c = '\u0131'
    · exact .inr (by rw [hdotless]; decide)
    · have hundot := of_isAscii_folding h
      rwa [undot, if_neg hdotless] at hundot
  have hchecked := forall_ascii_guests
    (p := fun c => isCapitalGuest c = false → IsAscii (folding.char (undot c)) →
      uppercase.char c = (folding.char (undot c)).map Char.toUpper)
    (by decide +kernel) (by decide +kernel) hmem
  exact hchecked hc h

end Char

/-! ## Two spellings of a word -/

/-- The text with an i for every dotless i. -/
def undotted (s : String) : String := String.ofList (s.toList.map undot)

section Words

variable {s label : String}

theorem toList_upper : (upper s).toList = s.toList.flatMap uppercase.char := by
  simp [upper, CaseMap.apply]

theorem toList_casefold : (casefold s).toList = s.toList.flatMap folding.char := by
  simp [casefold, CaseMap.apply]

theorem toList_casefold_undotted :
    (casefold (undotted s)).toList = s.toList.flatMap fun c => folding.char (undot c) := by
  rw [toList_casefold, undotted, String.toList_ofList, List.flatMap_map]

theorem undotted_of_not_mem (h : '\u0131' ∉ s.toList) : undotted s = s := by
  have hundot : ∀ c ∈ s.toList, undot c = c := by
    intro c hc
    have hne : c ≠ '\u0131' := fun heq => h (heq ▸ hc)
    rw [undot, if_neg hne]
  rw [undotted, List.map_congr_left hundot, List.map_id', String.ofList_toList]

theorem casefold_undotted_of_upper (h : IsAscii (upper s).toList) :
    (∀ c ∈ s.toList, isCapitalGuest c = false) ∧
      (casefold (undotted s)).toList = (upper s).toList.map Char.toLower := by
  rw [toList_upper, isAscii_flatMap] at h
  refine ⟨fun c hc => (folding_undot (h c hc)).1, ?_⟩
  rw [toList_casefold_undotted, toList_upper, List.map_flatMap]
  exact List.flatMap_congr fun c hc => (folding_undot (h c hc)).2

theorem upper_of_casefold_undotted (h : IsAscii (casefold (undotted s)).toList)
    (hs : ∀ c ∈ s.toList, isCapitalGuest c = false) :
    (upper s).toList = (casefold (undotted s)).toList.map Char.toUpper := by
  rw [toList_casefold_undotted, isAscii_flatMap] at h
  rw [toList_casefold_undotted, toList_upper, List.map_flatMap]
  exact List.flatMap_congr fun c hc => uppercase_eq (h c hc) (hs c hc)

/-- An ASCII word in capitals that does not fold to two s in a row. -/
structure IsCapital (label : String) : Prop where
  ascii : IsAscii label.toList
  upper_eq : upper label = label
  apart : ¬ ['s', 's'] <:+: (casefold label).toList

namespace IsCapital

theorem undotted_eq (h : IsCapital label) : undotted label = label :=
  undotted_of_not_mem fun hmem => absurd (h.ascii _ hmem) (by decide)

theorem casefold_undotted (h : IsCapital label) :
    (∀ c ∈ label.toList, isCapitalGuest c = false) ∧
      (casefold label).toList = label.toList.map Char.toLower := by
  have hcase := casefold_undotted_of_upper (s := label) (by rw [h.upper_eq]; exact h.ascii)
  rwa [h.undotted_eq, h.upper_eq] at hcase

theorem isAscii_casefold (h : IsCapital label) : IsAscii (casefold label).toList := by
  rw [h.casefold_undotted.2]
  exact h.ascii.map fun c hc => forall_ascii (p := fun c => c.toLower.toNat < 128) (by decide) hc

/-- Put in upper case, a text is the word if it folds as the word does, where the dotless i counts
as an i and the Kelvin sign as no letter. -/
theorem upper_eq_iff (h : IsCapital label) : upper s = label ↔
    casefold (undotted s) = casefold label ∧ '\u212a' ∉ s.toList := by
  constructor
  · intro hupper
    have hascii : IsAscii (upper s).toList := by
      rw [hupper]
      exact h.ascii
    obtain ⟨hguests, hcase⟩ := casefold_undotted_of_upper hascii
    rw [hupper, ← h.casefold_undotted.2] at hcase
    refine ⟨String.toList_inj.1 hcase, fun hkelvin => ?_⟩
    exact absurd (hguests _ hkelvin) (by decide)
  · rintro ⟨hcase, hkelvin⟩
    have hascii : IsAscii (casefold (undotted s)).toList := by
      rw [hcase]
      exact h.isAscii_casefold
    have hguests : ∀ c ∈ s.toList, isCapitalGuest c = false := by
      intro c hc
      by_contra hguest
      rw [Bool.not_eq_false, isCapitalGuest, Bool.or_eq_true, decide_eq_true_eq,
        decide_eq_true_eq] at hguest
      rcases hguest with rfl | rfl
      · exact hkelvin hc
      · -- The capital sharp s would fold to two s in a row.
        refine h.apart ?_
        rw [← hcase, toList_casefold_undotted]
        exact List.infix_of_mem_flatten (List.mem_map_of_mem hc)
    have hupper := upper_of_casefold_undotted hascii hguests
    have hlabel := upper_of_casefold_undotted (s := label)
    rw [h.undotted_eq, h.upper_eq] at hlabel
    rw [hcase, ← hlabel h.isAscii_casefold h.casefold_undotted.1] at hupper
    exact String.toList_inj.1 hupper

/-- A text folds as the word does if it does so with an i for every dotless i and has none. -/
theorem casefold_eq_iff (h : IsCapital label) : casefold s = casefold label ↔
    casefold (undotted s) = casefold label ∧ '\u0131' ∉ s.toList := by
  constructor
  · intro hcase
    have hdotless : '\u0131' ∉ s.toList := by
      intro hmem
      have hascii : IsAscii (casefold s).toList := by
        rw [hcase]
        exact h.isAscii_casefold
      rw [toList_casefold, isAscii_flatMap] at hascii
      exact absurd (hascii _ hmem) (by decide +kernel)
    rw [undotted_of_not_mem hdotless]
    exact ⟨hcase, hdotless⟩
  · rintro ⟨hcase, hdotless⟩
    rwa [undotted_of_not_mem hdotless] at hcase

end IsCapital

end Words

end Cnd.Text
