import Cnd.Json.Reader

/-!
# The numerals of JSON

The grammar of a numeral, without a reader in it: a sign, digits that do not begin with a zero
unless it is all there is, and a fraction or an exponent. The reader takes every numeral that is
not too long, if what follows it could not be a part of it (`readNumber_of_text`), and nothing else
(`text_of_readNumber`). The value of a numeral with a fraction or an exponent is the double that is
nearest to it.
-/

namespace Cnd.Json

/-- One digit or more. -/
def Digits (ds : List Char) : Prop := ds ≠ [] ∧ ∀ d ∈ ds, d.isDigit

/-- A zero alone, or digits that do not begin with one. -/
inductive WholeText : List Char → Prop
  | zero : WholeText ['0']
  | digits {ds : List Char} (h : Digits ds) (hzero : ds.head? ≠ some '0') : WholeText ds

/-- The digits of a fraction, or no fraction. -/
inductive FractionText : Option (List Char) → List Char → Prop
  | absent : FractionText none []
  | digits {ds : List Char} (h : Digits ds) : FractionText (some ds) ('.' :: ds)

/-- The number of an exponent, or no exponent. -/
inductive ExponentText : Option Int → List Char → Prop
  | absent : ExponentText none []
  | bare {e : Char} {ds : List Char} (he : e = 'e' ∨ e = 'E') (h : Digits ds) :
      ExponentText (some (Decimal.natOfDigits 10 ds)) (e :: ds)
  | plus {e : Char} {ds : List Char} (he : e = 'e' ∨ e = 'E') (h : Digits ds) :
      ExponentText (some (Decimal.natOfDigits 10 ds)) (e :: '+' :: ds)
  | minus {e : Char} {ds : List Char} (he : e = 'e' ∨ e = 'E') (h : Digits ds) :
      ExponentText (some (-Decimal.natOfDigits 10 ds)) (e :: '-' :: ds)

def signed (negative : Bool) (cs : List Char) : List Char := if negative then '-' :: cs else cs

/-- The numerals of a value. An integer has no more digits than may be read. -/
inductive NumberText : Json → List Char → Prop
  | int {negative : Bool} {ds : List Char} (h : WholeText ds)
      (hlength : ds.length ≤ Decimal.maxDigits) :
      NumberText (.int (if negative then -Decimal.natOfDigits 10 ds else Decimal.natOfDigits 10 ds))
        (signed negative ds)
  | float {negative : Bool} {ds fs es : List Char} {fraction : Option (List Char)}
      {exponent : Option Int} (h : WholeText ds) (hfraction : FractionText fraction fs)
      (hexponent : ExponentText exponent es)
      (hsome : ¬ (fraction = none ∧ exponent = none)) :
      NumberText
        (.float (if negative then -Decimal.floatOfDigits ds (fraction.getD []) (exponent.getD 0)
          else Decimal.floatOfDigits ds (fraction.getD []) (exponent.getD 0)))
        (signed negative (ds ++ (fs ++ es)))

/-- What follows a numeral could not be a part of it. -/
def Ends (rest : List Char) : Prop :=
  ∀ c ∈ rest.head?, c.isDigit = false ∧ c ≠ '.' ∧ c ≠ 'e' ∧ c ≠ 'E'

section Parts

variable {ds fs es cs rest : List Char} {fraction : Option (List Char)} {exponent : Option Int}

theorem spanDigits_append (hds : ∀ d ∈ ds, d.isDigit)
    (hrest : ∀ c ∈ rest.head?, c.isDigit = false) : spanDigits (ds ++ rest) = (ds, rest) := by
  have hspan : rest.takeWhile Char.isDigit = [] ∧ rest.dropWhile Char.isDigit = rest := by
    cases rest with
    | nil => exact ⟨rfl, rfl⟩
    | cons c rest =>
      have hc : c.isDigit = false := hrest c rfl
      simp [hc]
  rw [spanDigits, List.takeWhile_append_of_pos hds, List.dropWhile_append_of_pos hds, hspan.1,
    hspan.2, List.append_nil]

theorem exists_spanDigits (cs : List Char) :
    ∃ ds rest, spanDigits cs = (ds, rest) ∧ cs = ds ++ rest ∧ ∀ d ∈ ds, d.isDigit :=
  ⟨_, _, rfl, List.takeWhile_append_dropWhile.symm, List.all_eq_true.1 List.all_takeWhile⟩

/-- No digit comes first in what follows a numeral, nor in an exponent. -/
theorem Ends.isDigit (h : Ends rest) : ∀ c ∈ rest.head?, c.isDigit = false :=
  fun c hc => (h c hc).1

theorem Digits.exists_cons (h : Digits ds) : ∃ d more, ds = d :: more ∧ d.isDigit := by
  obtain ⟨d, more, rfl⟩ := List.exists_cons_of_ne_nil h.1
  exact ⟨d, more, rfl, h.2 d List.mem_cons_self⟩

theorem Digits.isEmpty (h : Digits ds) : ds.isEmpty = false := by
  simpa using h.1

/-! ## Digits in front of the point -/

theorem WholeText.exists_cons (h : WholeText ds) : ∃ d more, ds = d :: more ∧ d.isDigit := by
  cases h with
  | zero => exact ⟨'0', [], rfl, by decide⟩
  | digits h hzero => exact h.exists_cons

theorem readWhole_of_text (h : WholeText ds) (hrest : ∀ c ∈ rest.head?, c.isDigit = false) :
    readWhole (ds ++ rest) = some (ds, rest) := by
  cases h with
  | zero => rfl
  | digits h hzero =>
    have hspan := spanDigits_append h.2 hrest
    obtain ⟨d, more, rfl, hd⟩ := h.exists_cons
    rw [List.cons_append] at hspan ⊢
    rw [readWhole, if_pos hd, hspan]
    rintro rfl
    exact hzero rfl

theorem text_of_readWhole (h : readWhole cs = some (ds, rest)) :
    cs = ds ++ rest ∧ WholeText ds := by
  rw [readWhole.eq_def] at h
  split at h
  · cases h
    exact ⟨rfl, .zero⟩
  · rename_i c behind hzero
    split at h
    · rename_i hc
      obtain ⟨ds', rest', hspan, hcs, hdigits⟩ := exists_spanDigits (c :: behind)
      have hne : ds' = c :: behind.takeWhile Char.isDigit := by
        rw [spanDigits, List.takeWhile_cons_of_pos hc] at hspan
        exact (Prod.mk.inj hspan).1.symm
      rw [hspan] at h
      cases h
      refine ⟨hcs, .digits ⟨by simp [hne], hdigits⟩ ?_⟩
      rw [hne]
      intro heq
      exact hzero (Option.some.inj heq)
    · cases h
  · cases h

/-! ## Fractions and exponents -/

theorem readFraction_of_text (h : FractionText fraction fs) (hpoint : rest.head? ≠ some '.')
    (hrest : ∀ c ∈ rest.head?, c.isDigit = false) :
    readFraction (fs ++ rest) = fraction.map fun ds => (ds, rest) := by
  cases h with
  | absent =>
    cases rest with
    | nil => rfl
    | cons c rest =>
      rw [List.nil_append, readFraction]
      · rfl
      · rintro _ ⟨rfl, rfl⟩
        exact hpoint rfl
  | digits h =>
    rw [List.cons_append, readFraction, spanDigits_append h.2 hrest]
    simp only [h.isEmpty]
    rfl

theorem text_of_readFraction (cs : List Char) :
    ∃ fs, cs = fs ++ ((readFraction cs).map (·.2)).getD cs ∧
      FractionText ((readFraction cs).map (·.1)) fs := by
  rw [readFraction.eq_def]
  split
  · rename_i rest
    obtain ⟨ds, behind, hspan, hrest, hdigits⟩ := exists_spanDigits rest
    simp only [hspan]
    split
    · exact ⟨[], rfl, .absent⟩
    · rename_i hne
      refine ⟨'.' :: ds, ?_, .digits ⟨by simpa using hne, hdigits⟩⟩
      rw [hrest]
      rfl
  · exact ⟨[], rfl, .absent⟩

theorem behind_fraction (h : FractionText fraction fs) (rest : List Char) :
    ((fraction.map fun ds => (ds, rest)).map (·.2)).getD (fs ++ rest) = rest := by
  cases h <;> rfl

theorem readSign_signed (negative : Bool) (h : cs.head? ≠ some '-') :
    readSign (signed negative cs) = (negative, cs) := by
  cases negative with
  | true => rfl
  | false =>
    rw [signed, if_neg (by decide), readSign]
    rintro _ rfl
    exact h rfl

theorem signed_append (negative : Bool) (cs rest : List Char) :
    signed negative cs ++ rest = signed negative (cs ++ rest) := by
  cases negative <;> rfl

theorem signed_of_readSign {negative : Bool} (h : readSign cs = (negative, rest)) :
    cs = signed negative rest := by
  rw [readSign.eq_def] at h
  split at h <;> cases h <;> rfl

theorem readExponent_of_sign {e : Char} {negative : Bool} (he : e = 'e' ∨ e = 'E')
    (hsign : readExponentSign cs = (negative, ds ++ rest)) (h : Digits ds) (hrest : Ends rest) :
    readExponent (e :: cs) =
      some (if negative then -(Decimal.natOfDigits 10 ds : Int) else Decimal.natOfDigits 10 ds,
        rest) := by
  rw [readExponent, if_pos he, hsign]
  simp only [spanDigits_append h.2 hrest.isDigit, h.isEmpty, Bool.false_eq_true, if_false]

theorem readExponent_of_text (h : ExponentText exponent es) (hrest : Ends rest) :
    readExponent (es ++ rest) = exponent.map fun n => (n, rest) := by
  cases h with
  | absent =>
    cases rest with
    | nil => rfl
    | cons c rest =>
      have hc := hrest c rfl
      rw [List.nil_append, readExponent, if_neg (by simp [hc])]
      rfl
  | @bare e ds he h =>
    have hsign : readExponentSign (ds ++ rest) = (false, ds ++ rest) := by
      obtain ⟨d, more, rfl, hd⟩ := h.exists_cons
      rw [List.cons_append, readExponentSign, readSign]
      all_goals
        rintro _ ⟨rfl, rfl⟩
        revert hd
        decide
    exact readExponent_of_sign he hsign h hrest
  | @plus e ds he h =>
    have hsign : readExponentSign ('+' :: (ds ++ rest)) = (false, ds ++ rest) := rfl
    exact readExponent_of_sign he hsign h hrest
  | @minus e ds he h =>
    have hsign : readExponentSign ('-' :: (ds ++ rest)) = (true, ds ++ rest) := rfl
    exact readExponent_of_sign he hsign h hrest

theorem text_of_readExponent (cs : List Char) :
    ∃ es, cs = es ++ ((readExponent cs).map (·.2)).getD cs ∧
      ExponentText ((readExponent cs).map (·.1)) es := by
  rw [readExponent.eq_def]
  split
  · rename_i e rest
    split
    · rename_i he
      obtain ⟨negative, digits, hsign⟩ : ∃ negative digits,
          readExponentSign rest = (negative, digits) := ⟨_, _, rfl⟩
      obtain ⟨ds, behind, hspan, hdigits, hall⟩ := exists_spanDigits digits
      simp only [hsign, hspan]
      split
      · exact ⟨[], rfl, .absent⟩
      rename_i hne
      have hds : Digits ds := ⟨by simpa using hne, hall⟩
      rw [readExponentSign.eq_def] at hsign
      split at hsign
      · cases hsign
        refine ⟨e :: '+' :: ds, ?_, .plus he hds⟩
        rw [hdigits]
        rfl
      · cases negative with
        | true =>
          refine ⟨e :: '-' :: ds, ?_, .minus he hds⟩
          rw [signed_of_readSign hsign, hdigits]
          rfl
        | false =>
          refine ⟨e :: ds, ?_, .bare he hds⟩
          rw [signed_of_readSign hsign, hdigits]
          rfl
    · exact ⟨[], rfl, .absent⟩
  · exact ⟨[], rfl, .absent⟩

theorem behind_exponent (h : ExponentText exponent es) (rest : List Char) :
    ((exponent.map fun n => (n, rest)).map (·.2)).getD (es ++ rest) = rest := by
  cases h <;> rfl

end Parts

/-! ## Numerals -/

section Numerals

variable {v : Json} {cs ds es rest : List Char} {exponent : Option Int}

theorem Ends.append (hexponent : ExponentText exponent es) (hrest : Ends rest) :
    (∀ c ∈ (es ++ rest).head?, c.isDigit = false) ∧ (es ++ rest).head? ≠ some '.' := by
  cases hexponent with
  | absent => exact ⟨hrest.isDigit, fun hpoint => (hrest '.' hpoint).2.1 rfl⟩
  | bare he h => rcases he with rfl | rfl <;> exact ⟨by simp, by simp⟩
  | plus he h => rcases he with rfl | rfl <;> exact ⟨by simp, by simp⟩
  | minus he h => rcases he with rfl | rfl <;> exact ⟨by simp, by simp⟩

theorem head?_whole (h : WholeText ds) : (ds ++ rest).head? ≠ some '-' := by
  obtain ⟨d, more, rfl, hd⟩ := h.exists_cons
  rintro ⟨rfl⟩
  revert hd
  decide

theorem readSign_of_whole (negative : Bool) (h : WholeText ds) (rest : List Char) :
    readSign (signed negative ds ++ rest) = (negative, ds ++ rest) := by
  rw [signed_append]
  exact readSign_signed negative (head?_whole h)

/-- A numeral is read, if it ends where its text does. -/
theorem readNumber_of_text (h : NumberText v cs) (hrest : Ends rest) :
    readNumber (cs ++ rest) = .ok (v, rest) := by
  cases h with
  | @int negative ds h hlength =>
    have hpoint : rest.head? ≠ some '.' := fun hpoint => (hrest '.' hpoint).2.1 rfl
    have hfraction : readFraction rest = none :=
      readFraction_of_text .absent hpoint hrest.isDigit
    have hexponent : readExponent rest = none := readExponent_of_text .absent hrest
    rw [readNumber, readSign_of_whole negative h]
    simp only [readWhole_of_text h hrest.isDigit, hfraction, hexponent, Option.map_none,
      Option.getD_none, Option.isNone_none, and_self, if_true, Decimal.readNat,
      if_neg (Nat.not_lt.2 hlength)]
  | @float negative ds fs es fraction exponent h hfraction hexponent hsome =>
    obtain ⟨hdigit, hpoint⟩ := hrest.append hexponent
    have hdigit' : ∀ c ∈ (fs ++ (es ++ rest)).head?, c.isDigit = false := by
      cases hfraction with
      | absent => exact hdigit
      | digits _ => simp
    rw [← Option.isNone_iff_eq_none, ← Option.isNone_iff_eq_none] at hsome
    have hsign : readSign (signed negative (ds ++ (fs ++ es)) ++ rest) =
        (negative, ds ++ (fs ++ (es ++ rest))) := by
      rw [signed_append, List.append_assoc, List.append_assoc]
      exact readSign_signed negative (head?_whole h)
    rw [readNumber, hsign]
    simp only [readWhole_of_text h hdigit', readFraction_of_text hfraction hpoint hdigit,
      behind_fraction hfraction, readExponent_of_text hexponent hrest, behind_exponent hexponent,
      Option.isNone_map, if_neg hsome]
    simp only [Option.map_map, Function.comp_def, Option.map_id']

/-- What is read as a number is a numeral of it. -/
theorem text_of_readNumber (h : readNumber cs = .ok (v, rest)) :
    ∃ text, cs = text ++ rest ∧ NumberText v text := by
  obtain ⟨negative, unsigned, hsign⟩ : ∃ negative unsigned, readSign cs = (negative, unsigned) :=
    ⟨_, _, rfl⟩
  rw [readNumber, hsign] at h
  simp only at h
  split at h
  · cases h
  rename_i ds behind hwhole
  obtain ⟨rfl, hds⟩ := text_of_readWhole hwhole
  obtain ⟨fs, hfs, hfraction⟩ := text_of_readFraction behind
  obtain ⟨es, hes, hexponent⟩ :=
    text_of_readExponent (((readFraction behind).map (·.2)).getD behind)
  split at h
  · rename_i hnone
    rw [Option.isNone_iff_eq_none, Option.isNone_iff_eq_none] at hnone
    obtain ⟨hfraction, hexponent⟩ := hnone
    simp only [hfraction, Option.map_none, Option.getD_none] at hexponent h
    rw [hexponent, Option.map_none, Option.getD_none, Decimal.readNat] at h
    split at h
    · rename_i n hread
      split at hread
      · cases hread
      rename_i hlength
      cases hread
      cases h
      refine ⟨signed negative ds, ?_, .int hds (Nat.not_lt.1 hlength)⟩
      rw [signed_of_readSign hsign, signed_append]
    · cases h
  · rename_i hsome
    cases h
    refine ⟨signed negative (ds ++ (fs ++ es)), ?_, .float hds hfraction hexponent ?_⟩
    · rw [signed_append, List.append_assoc, List.append_assoc, ← hes, ← hfs]
      exact signed_of_readSign hsign
    · simpa only [Option.map_eq_none_iff, Option.isNone_iff_eq_none] using hsome

end Numerals

end Cnd.Json
