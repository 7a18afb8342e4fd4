import Cnd.Proofs.Lexical.Lexer

/-!
# Scanning follows the lexical grammar

A whole scan is the one analysis of its text (`scan_analysis`): the tokens of a decomposition
into gaps and lexemes if there is one, and otherwise the tokens in front of the first place
where nothing goes on, with an error at that place.
-/

namespace Cnd.Lexical

/-! ## One step of a scan -/

/-- A scan goes by the next token. -/
theorem scanFrom_eq (before : List Token) (c : Cursor) :
    scanFrom before c = match Lexer.next c with
      | (.error e, _) => ⟨before.reverse, .error e⟩
      | (.ok t, behind) =>
        if t.kind = .eof then ⟨before.reverse, .ok t.position⟩
        else scanFrom (t :: before) behind := by
  rw [scanFrom.eq_def]
  rcases Lexer.next c with ⟨e | t, behind⟩
  · rfl
  · by_cases ht : t.kind = .eof
    · simp [ht]
    · simp [ht]

theorem scanFrom_error {c : Cursor} {e : ScanError} (h : (Lexer.next c).1 = .error e)
    (before : List Token) : scanFrom before c = ⟨before.reverse, .error e⟩ := by
  rw [scanFrom_eq]
  rcases hnext : Lexer.next c with ⟨e' | t, behind⟩
  · rw [hnext] at h
    cases h
    rfl
  · rw [hnext] at h
    cases h

theorem scanFrom_token {c behind : Cursor} {t : Token} (h : Lexer.next c = (.ok t, behind))
    (ht : t.kind ≠ .eof) (before : List Token) :
    scanFrom before c = scanFrom (t :: before) behind := by
  rw [scanFrom_eq, h]
  exact if_neg ht

theorem scanFrom_end {c behind : Cursor} {t : Token} (h : Lexer.next c = (.ok t, behind))
    (ht : t.kind = .eof) (before : List Token) :
    scanFrom before c = ⟨before.reverse, .ok t.position⟩ := by
  rw [scanFrom_eq, h]
  exact if_pos ht

theorem scanFrom_congr {c d : Cursor} (h : Lexer.next c = Lexer.next d) (before : List Token) :
    scanFrom before c = scanFrom before d := by
  rw [scanFrom_eq, h, ← scanFrom_eq]

/-- Blanks in front of a token are passed over. -/
theorem scanFrom_blank {c : Char} (hc : Text.isBlank c) (before : List Token) (cs : List Char)
    (pos : Position) : scanFrom before ⟨c :: cs, pos⟩ = scanFrom before ⟨cs, pos.next c⟩ := by
  refine scanFrom_congr ?_ before
  rw [Lexer.next, Lexer.next, skipGap_blank hc]
  rfl

/-! ## A whole scan -/

/-- Lexemes are read as their tokens, however many there are. -/
theorem scanFrom_lexes {past cs left : List Char} {ts : List Token} (h : Lexes past cs ts left) :
    ∃ taken, cs = taken ++ left ∧ ∀ before,
      scanFrom before ⟨cs, place past⟩ =
        scanFrom (ts.reverse ++ before) ⟨left, place (past ++ taken)⟩ := by
  induction h with
  | nil => exact ⟨[], rfl, fun before => by simp⟩
  | @cons past g l rest left kind data ts hg hl _ ih =>
    obtain ⟨taken, rfl, hscan⟩ := ih
    -- One token is read, and the characters behind it by the induction hypothesis.
    refine ⟨g ++ l ++ taken, by simp, fun before => ?_⟩
    have hnext := next_lexeme (c := ⟨g ++ l ++ (taken ++ left), place past⟩)
      (List.append_assoc ..) hg hl
    rw [scanFrom_token hnext hl.kind_ne_eof, place_after, place_after, ← List.append_assoc past,
      hscan]
    simp

/-- Every text begins with lexemes, behind which it either ends or is stuck. -/
theorem exists_lexes (past cs : List Char) :
    ∃ ts left, Lexes past cs ts left ∧
      (Gap left [] ∨ ∃ g rest cause, left = g ++ rest ∧ Gap g rest ∧ Stuck rest cause) := by
  induction hn : cs.length using Nat.strongRecOn generalizing past cs with
  | ind n ih =>
    subst hn
    cases First.of cs with
    | finished hg => exact ⟨[], cs, .nil, .inl hg⟩
    | @lexeme g l rest kind data hg hl =>
      -- A lexeme has a character, so fewer are left behind it.
      obtain ⟨c, l', rfl, -, -⟩ := hl.solid
      obtain ⟨ts, left, hlexes, hleft⟩ :=
        ih rest.length (by simp; omega) (past ++ g ++ (c :: l')) rest rfl
      refine ⟨⟨kind, some data, place (past ++ g)⟩ :: ts, left, ?_, hleft⟩
      rw [← List.append_assoc]
      exact .cons hg hl hlexes
    | @stuck g rest cause hg hs => exact ⟨[], _, .nil, .inr ⟨g, rest, cause, rfl, hg, hs⟩⟩

theorem exists_analysis (cs : List Char) : ∃ ts ending, Analysis cs ts ending := by
  obtain ⟨ts, left, hlexes, hg | ⟨g, rest, cause, rfl, hg, hs⟩⟩ := exists_lexes [] cs
  · exact ⟨ts, _, .complete ⟨left, hlexes, hg⟩⟩
  · obtain ⟨taken, hcs, -⟩ := scanFrom_lexes hlexes
    exact ⟨ts, _, .stuck hlexes hg hs (by rw [hcs, List.append_assoc])⟩

/-- A scan is what the analysis of its text says. -/
theorem scan_eq_of_analysis {source : String} {ts : List Token}
    {ending : Except ScanError Position} (h : Analysis source.toList ts ending) :
    scan source = ⟨ts, ending⟩ := by
  cases h with
  | complete h =>
    obtain ⟨g, hlexes, hg⟩ := h
    obtain ⟨taken, hcs, hscan⟩ := scanFrom_lexes hlexes
    have hnext := next_end (c := ⟨g, place ([] ++ taken)⟩) hg
    rw [place_after] at hnext
    rw [scan, Cursor.ofString, ← place_nil, hscan, scanFrom_end hnext rfl]
    simp [hcs, Token.atEnd]
  | @stuck done g rest cause hlexes hg hs hcs =>
    obtain ⟨taken, htaken, hscan⟩ := scanFrom_lexes hlexes
    -- The text in front of the error is what the tokens and the last gap have taken.
    have hdone : taken ++ g = done := by
      rw [hcs, ← List.append_assoc] at htaken
      exact (List.append_cancel_right htaken).symm
    have hnext := next_stuck (c := ⟨g ++ rest, place ([] ++ taken)⟩) rfl hg hs
    rw [place_after] at hnext
    rw [scan, Cursor.ofString, ← place_nil, hscan, scanFrom_error hnext]
    simp [hdone]

theorem scan_eq_iff {source : String} {ts : List Token} {ending : Except ScanError Position} :
    scan source = ⟨ts, ending⟩ ↔ Analysis source.toList ts ending := by
  refine ⟨fun h => ?_, scan_eq_of_analysis⟩
  -- There is an analysis at all, and the scan is what that one says.
  obtain ⟨ts', ending', ha⟩ := exists_analysis source.toList
  rw [scan_eq_of_analysis ha] at h
  cases h
  exact ha

/-! ## Offsets -/

theorem Lexes.offsets {past cs left : List Char} {ts : List Token} (h : Lexes past cs ts left) :
    (∀ t ∈ ts, past.length ≤ t.position.offset) ∧
      ts.Pairwise fun t u => t.position.offset < u.position.offset := by
  induction h with
  | nil => simp
  | @cons past g l rest left kind data ts hg hl _ ih =>
    obtain ⟨c, cs, rfl, -, -⟩ := hl.solid
    have hlater : ∀ t ∈ ts, (past ++ g).length < t.position.offset := by
      intro t ht
      have := ih.1 t ht
      simp only [List.length_append, List.length_cons] at this ⊢
      omega
    refine ⟨fun t ht => ?_, List.pairwise_cons.2 ⟨hlater, ih.2⟩⟩
    rcases List.mem_cons.1 ht with rfl | ht
    · simp only [place, List.length_append]
      omega
    · have := hlater t ht
      simp only [List.length_append] at this
      omega

theorem Lexes.kind_ne_eof {past cs left : List Char} {ts : List Token}
    (h : Lexes past cs ts left) : ∀ t ∈ ts, t.kind ≠ .eof := by
  induction h with
  | nil => simp
  | cons hg hl _ ih => exact List.forall_mem_cons.2 ⟨hl.kind_ne_eof, ih⟩

theorem Analysis.exists_lexes {cs : List Char} {ts : List Token}
    {ending : Except ScanError Position} (h : Analysis cs ts ending) :
    ∃ left, Lexes [] cs ts left := by
  cases h with
  | complete h =>
    obtain ⟨g, hlexes, -⟩ := h
    exact ⟨g, hlexes⟩
  | stuck h => exact ⟨_, h⟩

/-- The end of the text is no token of a scan. -/
theorem kind_ne_eof_of_mem_scan {source : String} {t : Token} (h : t ∈ (scan source).tokens) :
    t.kind ≠ .eof := by
  obtain ⟨left, hlexes⟩ := (scan_eq_iff.1 rfl : Analysis source.toList _ _).exists_lexes
  exact hlexes.kind_ne_eof t h

/-- The tokens of a scan lie one behind the other. -/
theorem pairwise_offset_scan (source : String) :
    (scan source).tokens.Pairwise fun t u => t.position.offset < u.position.offset := by
  obtain ⟨left, hlexes⟩ := (scan_eq_iff.1 rfl : Analysis source.toList _ _).exists_lexes
  exact hlexes.offsets.2

/-! ## The lexical specification -/

/-- **The lexical specification.** A scan is the one analysis of its text. Its tokens lie one
behind the other, the end of a text that is scanned to its end is behind all characters, and an
error arises exactly if the text as a whole is not gaps and lexemes in turn. -/
theorem scan_analysis (source : String) :
    Analysis source.toList (scan source).tokens (scan source).ending ∧
      (∀ ts ending, Analysis source.toList ts ending → scan source = ⟨ts, ending⟩) ∧
      (∀ t ∈ (scan source).tokens, t.kind ≠ .eof) ∧
      (scan source).tokens.Pairwise (fun t u => t.position.offset < u.position.offset) ∧
      (∀ p, (scan source).ending = .ok p → p.offset = source.length) ∧
      ((∃ e, (scan source).ending = .error e) ↔ ¬ ∃ ts, Decomposes source.toList ts) := by
  have ha : Analysis source.toList (scan source).tokens (scan source).ending :=
    scan_eq_iff.1 rfl
  refine ⟨ha, fun _ _ => scan_eq_of_analysis, fun _ => kind_ne_eof_of_mem_scan,
    pairwise_offset_scan source, ?_, ?_, ?_⟩
  · intro p hp
    rw [hp] at ha
    cases ha
    simp [place, String.length_toList]
  · rintro ⟨e, he⟩ ⟨ts, hd⟩
    have h := scan_eq_of_analysis (.complete hd)
    rw [h] at he
    cases he
  · intro hnone
    generalize (scan source).ending = ending at ha
    cases ha with
    | complete h => exact absurd ⟨_, h⟩ hnone
    | stuck => exact ⟨_, rfl⟩

end Cnd.Lexical
