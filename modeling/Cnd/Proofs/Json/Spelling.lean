import Cnd.Json.Reader
import Cnd.Proofs.Text.Ascii

/-!
# The spellings of a string

Between its quotes a string may be spelled in many ways: a character as it is, in its short escape
if it has one, or in the hexadecimal digits of its 16-bit units, in capitals or not. The relation
`Spelled` has a rule for each of these and no reader in it. The reader takes exactly these
spellings, each for the characters that it spells (`readString_eq_ok`).

A unit may also be half of a pair whose other half is not there. It spells no character. Texts are
made of characters here, so such a unit is taken for U+FFFD; this is the limit of the reading.
-/

namespace Cnd.Json

/-! ## Hexadecimal units -/

/-- The character `c` is a digit of value `d`, in lower or in upper case. -/
def HexDigit (d : Nat) (c : Char) : Prop :=
  d < 16 ∧ (c = Nat.digitChar d ∨ c = (Nat.digitChar d).toUpper)

instance (d : Nat) (c : Char) : Decidable (HexDigit d c) :=
  inferInstanceAs (Decidable (d < 16 ∧ (c = Nat.digitChar d ∨ c = (Nat.digitChar d).toUpper)))

/-- The four digits of a 16-bit unit. -/
inductive UnitText : Nat → List Char → Prop
  | digits {x y z w : Nat} {a b c d : Char} (ha : HexDigit x a) (hb : HexDigit y b)
      (hc : HexDigit z c) (hd : HexDigit w d) :
      UnitText (((x * 16 + y) * 16 + z) * 16 + w) [a, b, c, d]

/-- The unit is an upper half of a pair. -/
def IsHigh (n : Nat) : Prop := 0xD800 ≤ n ∧ n ≤ 0xDBFF

/-- The unit is a lower half of a pair. -/
def IsLow (n : Nat) : Prop := 0xDC00 ≤ n ∧ n ≤ 0xDFFF

/-- A unit on its own is the number of its character, or it is half of a pair. -/
def StandsFor (n : Nat) (c : Char) : Prop := c.toNat = n ∨ (IsHigh n ∨ IsLow n) ∧ c = '\ufffd'

/-- The escape of a lower half comes next. -/
def LowComes (cs : List Char) : Prop :=
  ∃ n ds rest, cs = '\\' :: 'u' :: (ds ++ rest) ∧ UnitText n ds ∧ IsLow n

/-- The letters of the short escapes, with the characters they stand for. -/
def shortEscapes : List (Char × Char) :=
  [('\x22', '\x22'), ('\\', '\\'), ('/', '/'), ('b', '\x08'), ('f', '\x0c'), ('n', '\n'),
    ('r', '\r'), ('t', '\t')]

/-- Between quotes, the characters `cs` spell the string of the characters `s`. -/
inductive Spelled : List Char → List Char → Prop
  | nil : Spelled [] []
  | plain {c : Char} {s cs : List Char} (hquote : c ≠ '\x22') (hslash : c ≠ '\\')
      (hcontrol : ' ' ≤ c) (h : Spelled s cs) : Spelled (c :: s) (c :: cs)
  | short {e c : Char} {s cs : List Char} (he : (e, c) ∈ shortEscapes) (h : Spelled s cs) :
      Spelled (c :: s) ('\\' :: e :: cs)
  | unit {n : Nat} {c : Char} {s ds cs : List Char} (hn : UnitText n ds) (hc : StandsFor n c)
      (halone : IsHigh n → ¬ LowComes cs) (h : Spelled s cs) :
      Spelled (c :: s) ('\\' :: 'u' :: (ds ++ cs))
  | pair {m n : Nat} {c : Char} {s ds es cs : List Char} (hm : UnitText m ds) (hhigh : IsHigh m)
      (hn : UnitText n es) (hlow : IsLow n)
      (hc : c.toNat = 0x10000 + (m - 0xD800) * 0x400 + (n - 0xDC00)) (h : Spelled s cs) :
      Spelled (c :: s) ('\\' :: 'u' :: (ds ++ '\\' :: 'u' :: (es ++ cs)))

section Units

variable {d m n : Nat} {c : Char} {cs ds rest behind : List Char}

theorem hexValue?_of_hexDigit (h : HexDigit d c) : hexValue? c = some d := by
  have hall : ∀ d < 16, hexValue? (Nat.digitChar d) = some d ∧
      hexValue? (Nat.digitChar d).toUpper = some d := by decide
  obtain ⟨hd, rfl | rfl⟩ := h
  · exact (hall d hd).1
  · exact (hall d hd).2

theorem toNat_bounds {a z : Char} (ha : a ≤ c) (hz : c ≤ z) :
    a.toNat ≤ c.toNat ∧ c.toNat ≤ z.toNat :=
  ⟨UInt32.le_iff_toNat_le.1 ha, UInt32.le_iff_toNat_le.1 hz⟩

theorem lt_of_hexValue? (h : hexValue? c = some d) : c.toNat < 128 ∧ d < 16 := by
  rw [hexValue?] at h
  split at h
  · rename_i hdigit
    simp only [Char.isDigit, Bool.and_eq_true, decide_eq_true_eq] at hdigit
    have hbounds : 48 ≤ c.toNat ∧ c.toNat ≤ 57 := @toNat_bounds c '0' '9' hdigit.1 hdigit.2
    cases h
    show c.toNat < 128 ∧ c.toNat - 48 < 16
    omega
  split at h
  · rename_i hletter
    have hbounds : 97 ≤ c.toNat ∧ c.toNat ≤ 102 := toNat_bounds hletter.1 hletter.2
    cases h
    show c.toNat < 128 ∧ c.toNat - 97 + 10 < 16
    omega
  split at h
  · rename_i hletter
    have hbounds : 65 ≤ c.toNat ∧ c.toNat ≤ 70 := toNat_bounds hletter.1 hletter.2
    cases h
    show c.toNat < 128 ∧ c.toNat - 65 + 10 < 16
    omega
  · cases h

/-- The digits are exactly the characters that have a value. -/
theorem hexValue?_eq_some : hexValue? c = some d ↔ HexDigit d c := by
  constructor
  · intro h
    obtain ⟨hc, hd⟩ := lt_of_hexValue? h
    exact Text.forall_ascii (p := fun c => ∀ d < 16, hexValue? c = some d → HexDigit d c)
      (by decide) hc d hd h
  · exact hexValue?_of_hexDigit

theorem UnitText.lt (h : UnitText n ds) : n < 0x10000 := by
  cases h with
  | digits ha hb hc hd =>
    have hx := ha.1
    have hy := hb.1
    have hz := hc.1
    have hw := hd.1
    omega

/-- A unit is read from its digits, if something follows them. -/
theorem readUnit?_of_text (h : UnitText n ds) (hrest : rest ≠ []) :
    readUnit? (ds ++ rest) = some (n, rest) := by
  obtain ⟨e, rest, rfl⟩ := List.exists_cons_of_ne_nil hrest
  cases h with
  | digits ha hb hc hd =>
    rw [← hexValue?_eq_some] at ha hb hc hd
    simp only [List.cons_append, List.nil_append, readUnit?, ha, hb, hc, hd, Option.bind_eq_bind,
      Option.bind_some, Option.pure_def]

theorem text_of_readUnit? (h : readUnit? cs = some (n, rest)) :
    rest ≠ [] ∧ ∃ ds, cs = ds ++ rest ∧ UnitText n ds := by
  rw [readUnit?.eq_def] at h
  split at h
  · rename_i a b c d e behind
    simp only [Option.bind_eq_bind, Option.bind_eq_some_iff, Option.pure_def,
      Option.some.injEq, Prod.mk.injEq, hexValue?_eq_some] at h
    obtain ⟨x, ha, y, hb, z, hc, w, hd, rfl, rfl⟩ := h
    exact ⟨List.cons_ne_nil _ _, [a, b, c, d], rfl, .digits ha hb hc hd⟩
  · cases h

theorem UnitText.length (h : UnitText n ds) : ds.length = 4 := by
  cases h
  rfl

/-! ## Characters of units -/

/-- No character is half of a pair. -/
theorem not_surrogate (c : Char) : ¬ (0xD800 ≤ c.toNat ∧ c.toNat ≤ 0xDFFF) := by
  rcases c.valid with hlow | ⟨hhigh, -⟩
  · rw [Char.toNat]
    exact fun h => by omega
  · rw [Char.toNat]
    exact fun h => by omega

theorem charOfUnit_of_standsFor (h : StandsFor n c) : charOfUnit n = c := by
  rcases h with rfl | ⟨hhalf, rfl⟩
  · rw [charOfUnit, if_neg (not_surrogate c), Char.ofNat_toNat]
  · rw [IsHigh, IsLow] at hhalf
    rw [charOfUnit, if_pos (by omega)]

theorem standsFor_charOfUnit (h : n < 0x10000) : StandsFor n (charOfUnit n) := by
  rw [charOfUnit]
  split
  · rename_i hhalf
    refine .inr ⟨?_, rfl⟩
    rw [IsHigh, IsLow]
    omega
  · rename_i hwhole
    have hvalid : n.isValidChar := by
      unfold Nat.isValidChar
      omega
    exact .inl (Text.toNat_ofNat hvalid)

theorem LowComes.append (h : LowComes cs) : LowComes (cs ++ rest) := by
  obtain ⟨n, ds, behind, rfl, hn, hlow⟩ := h
  exact ⟨n, ds, behind ++ rest, by simp, hn, hlow⟩

/-- A unit is read on its own, unless it is the upper half in front of a lower one. -/
theorem readUnicode_alone (hn : UnitText n ds) (hc : StandsFor n c) (hrest : rest ≠ [])
    (halone : IsHigh n → ∀ more, rest = '\\' :: 'u' :: more →
      ∃ m behind, readUnit? more = some (m, behind) ∧ ¬ IsLow m) :
    readUnicode (ds ++ rest) = .ok (c, rest) := by
  rw [readUnicode, readUnit?_of_text hn hrest]
  simp only [charOfUnit_of_standsFor hc]
  split
  · rename_i more
    split
    · rename_i hhigh
      obtain ⟨m, behind, hm, hlow⟩ := halone hhigh more rfl
      rw [hm]
      exact if_neg hlow
    · rfl
  · rfl

/-- The two halves of a pair are read together. -/
theorem readUnicode_pair {es : List Char} (hm : UnitText m ds) (hhigh : IsHigh m)
    (hn : UnitText n es) (hlow : IsLow n)
    (hc : c.toNat = 0x10000 + (m - 0xD800) * 0x400 + (n - 0xDC00)) (hrest : rest ≠ []) :
    readUnicode (ds ++ '\\' :: 'u' :: (es ++ rest)) = .ok (c, rest) := by
  rw [readUnicode, readUnit?_of_text hm (List.cons_ne_nil _ _)]
  simp only [readUnit?_of_text hn hrest]
  rw [IsHigh] at hhigh
  rw [IsLow] at hlow
  rw [if_pos hhigh, if_pos hlow, ← hc, Char.ofNat_toNat]

/-- What is read behind `\u` is a unit on its own or a pair. -/
theorem text_of_readUnicode (h : readUnicode cs = .ok (c, rest)) :
    (∃ n ds, cs = ds ++ rest ∧ UnitText n ds ∧ StandsFor n c ∧ (IsHigh n → ¬ LowComes rest)) ∨
      ∃ m n ds es, cs = ds ++ '\\' :: 'u' :: (es ++ rest) ∧ UnitText m ds ∧ IsHigh m ∧
        UnitText n es ∧ IsLow n ∧ c.toNat = 0x10000 + (m - 0xD800) * 0x400 + (n - 0xDC00) := by
  rw [readUnicode] at h
  split at h
  · cases h
  rename_i m behind hunit
  obtain ⟨-, ds, rfl, hm⟩ := text_of_readUnit? hunit
  have hself : StandsFor m (charOfUnit m) := standsFor_charOfUnit hm.lt
  split at h
  · rename_i more
    split at h
    · rename_i hhigh
      split at h
      · cases h
      rename_i n beyond hsecond
      obtain ⟨hbeyond, es, rfl, hn⟩ := text_of_readUnit? hsecond
      split at h
      · rename_i hlow
        obtain ⟨rfl, rfl⟩ := Prod.mk.inj (Except.ok.inj h)
        refine .inr ⟨m, n, ds, es, rfl, hm, hhigh, hn, hlow, Text.toNat_ofNat ?_⟩
        unfold Nat.isValidChar
        omega
      · rename_i hlow
        cases h
        refine .inl ⟨m, ds, rfl, hm, hself, fun _ hcomes => hlow ?_⟩
        -- The four digits that come next are those of the lower half.
        obtain ⟨k, fs, rest, heq, hk, hkLow⟩ := hcomes
        rw [List.cons.injEq, List.cons.injEq] at heq
        obtain ⟨hdigits, hrest⟩ := List.append_inj heq.2.2 (hn.length.trans hk.length.symm)
        subst hdigits hrest
        have hsame := readUnit?_of_text hk hbeyond
        rw [hsecond] at hsame
        cases hsame
        exact hkLow
    · rename_i hhigh
      cases h
      exact .inl ⟨m, ds, rfl, hm, hself, fun h => absurd h hhigh⟩
  · rename_i hnone
    cases h
    refine .inl ⟨m, ds, rfl, hm, hself, fun _ hcomes => ?_⟩
    obtain ⟨_, _, _, heq, -⟩ := hcomes
    exact hnone _ heq

end Units

/-! ## Strings -/

section Strings

variable {opening content s cs rest behind : List Char} {c e : Char}

theorem unescape?_eq_some : unescape? e = some c ↔ (e, c) ∈ shortEscapes := by
  constructor
  · intro h
    rw [unescape?.eq_def] at h
    split at h <;> cases h <;> decide
  · have hall : ∀ p ∈ shortEscapes, unescape? p.1 = some p.2 := by decide
    exact hall (e, c)

theorem readString_quote :
    readString opening content ('\x22' :: rest) = .ok (String.ofList content.reverse, rest) := by
  rw [readString]

theorem readString_unicode {digits : List Char} (h : readUnicode digits = .ok (c, behind)) :
    readString opening content ('\\' :: 'u' :: digits) =
      readString opening (c :: content) behind := by
  rw [readString]
  split
  · rename_i herror
    rw [h] at herror
    cases herror
  · rename_i hok
    rw [h] at hok
    cases hok
    rfl

theorem readString_escaped (hu : e ≠ 'u') (h : unescape? e = some c) :
    readString opening content ('\\' :: e :: rest) = readString opening (c :: content) rest := by
  rw [readString, h]
  exact hu

theorem readString_plain (hquote : c ≠ '\x22') (hslash : c ≠ '\\') (hcontrol : ¬ c < ' ') :
    readString opening content (c :: rest) = readString opening (c :: content) rest := by
  rw [readString, if_neg hcontrol]
  · exact fun heq => hquote heq
  · exact fun heq => hslash heq

/-- Characters that need no escape spell themselves. -/
theorem Spelled.self (h : s.all fun c => c ≠ '\x22' ∧ c ≠ '\\' ∧ ' ' ≤ c) : Spelled s s := by
  induction s with
  | nil => exact .nil
  | cons c s ih =>
    rw [List.all_cons, Bool.and_eq_true, decide_eq_true_iff] at h
    obtain ⟨⟨hquote, hslash, hcontrol⟩, hs⟩ := h
    exact .plain hquote hslash hcontrol (ih hs)

/-- Wherever a spelling goes on with the escape of a unit, the unit can be read. -/
theorem Spelled.readUnit? {more : List Char} (h : Spelled s cs)
    (hmore : cs ++ '\x22' :: rest = '\\' :: 'u' :: more) (hlow : ¬ LowComes cs) :
    ∃ m behind, Json.readUnit? more = some (m, behind) ∧ ¬ IsLow m := by
  cases h with
  | nil => cases hmore
  | plain hquote hslash hcontrol h => exact absurd (List.cons.inj hmore).1 hslash
  | short he h =>
    have hu : ∀ p ∈ shortEscapes, p.1 ≠ 'u' := by decide
    exact absurd (List.cons.inj (List.cons.inj hmore).2).1 (hu _ he)
  | @unit n c s ds cs hn hc halone h =>
    simp only [List.cons_append, List.cons.injEq, true_and, List.append_assoc] at hmore
    subst hmore
    exact ⟨n, _, readUnit?_of_text hn (by simp), fun hn' => hlow ⟨n, ds, cs, rfl, hn, hn'⟩⟩
  | @pair m n c s ds es cs hm hhigh hn hlow' hc h =>
    simp only [List.cons_append, List.cons.injEq, true_and, List.append_assoc] at hmore
    subst hmore
    refine ⟨m, _, readUnit?_of_text hm (by simp), ?_⟩
    rw [IsHigh] at hhigh
    rw [IsLow]
    omega

/-- Every spelling is read, up to the quote behind it. -/
theorem readString_of_spelled (h : Spelled s cs) :
    readString opening content (cs ++ '\x22' :: rest) =
      .ok (String.ofList (content.reverse ++ s), rest) := by
  induction h generalizing content with
  | nil =>
    rw [List.append_nil]
    exact readString_quote
  | plain hquote hslash hcontrol h ih =>
    rw [List.cons_append, readString_plain hquote hslash (Char.not_lt.2 hcontrol), ih]
    simp
  | short he h ih =>
    have hu : ∀ p ∈ shortEscapes, p.1 ≠ 'u' := by decide
    rw [List.cons_append, List.cons_append,
      readString_escaped (hu _ he) (unescape?_eq_some.2 he), ih]
    simp
  | unit hn hc halone h ih =>
    rw [List.cons_append, List.cons_append, List.append_assoc,
      readString_unicode (readUnicode_alone hn hc (by simp) fun hhigh more hmore =>
        h.readUnit? hmore (halone hhigh)), ih]
    simp
  | pair hm hhigh hn hlow hc h ih =>
    simp only [List.cons_append, List.append_assoc]
    rw [readString_unicode (readUnicode_pair hm hhigh hn hlow hc (by simp)), ih]
    simp

/-- What is read as a string is a spelling of it and the quote behind it. -/
theorem spelled_of_readString {string : String}
    (h : readString opening content cs = .ok (string, rest)) :
    ∃ s text, cs = text ++ '\x22' :: rest ∧ Spelled s text ∧
      string = String.ofList (content.reverse ++ s) := by
  fun_induction readString opening content cs with
  | case1 => cases h
  | case2 content behind =>
    cases h
    exact ⟨[], [], rfl, .nil, by simp⟩
  | case3 => cases h
  | case4 => cases h
  | case5 content digits c behind hdigits ih =>
    obtain ⟨s, text, rfl, hs, rfl⟩ := ih h
    rcases text_of_readUnicode hdigits with
      ⟨n, ds, rfl, hn, hc, halone⟩ | ⟨m, n, ds, es, rfl, hm, hhigh, hn, hlow, hc⟩
    · refine ⟨c :: s, '\\' :: 'u' :: (ds ++ text), by simp, .unit hn hc ?_ hs, by simp⟩
      intro hhigh hcomes
      exact halone hhigh hcomes.append
    · exact ⟨c :: s, '\\' :: 'u' :: (ds ++ '\\' :: 'u' :: (es ++ text)), by simp,
        .pair hm hhigh hn hlow hc hs, by simp⟩
  | case6 => cases h
  | case7 content e behind hu c he ih =>
    obtain ⟨s, text, rfl, hs, rfl⟩ := ih h
    exact ⟨c :: s, '\\' :: e :: text, rfl, .short (unescape?_eq_some.1 he) hs, by simp⟩
  | case8 => cases h
  | case9 content c behind hquote hslash hcontrol ih =>
    obtain ⟨s, text, rfl, hs, rfl⟩ := ih h
    exact ⟨c :: s, c :: text, rfl, .plain hquote hslash (Char.not_lt.1 hcontrol) hs, by simp⟩

/-- A string is read wherever it is spelled up to a quote, and nowhere else. -/
theorem readString_eq_ok {string : String} :
    readString opening [] cs = .ok (string, rest) ↔
      ∃ text, cs = text ++ '\x22' :: rest ∧ Spelled string.toList text := by
  constructor
  · intro h
    obtain ⟨s, text, hcs, hs, rfl⟩ := spelled_of_readString h
    refine ⟨text, hcs, ?_⟩
    simpa using hs
  · rintro ⟨text, rfl, hs⟩
    rw [readString_of_spelled hs, List.reverse_nil, List.nil_append, String.ofList_toList]

end Strings

end Cnd.Json
