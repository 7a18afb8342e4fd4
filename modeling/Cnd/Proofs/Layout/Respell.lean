import Cnd.Proofs.Layout.Alike

/-!
# Writing tokens down

Tokens that can be spelled are the tokens of a text, in all but their places (`exists_scan_alike`).
They are written one behind the other with a space in between, which is left out behind a minus
that a word is glued to.
-/

namespace Cnd

open Lexical Lexer

/-- There is a lexeme of the token. -/
def Token.Spellable (t : Token) : Prop :=
  ∃ l rest data, t.data = some data ∧ Lexeme l rest t.kind data

theorem Lexical.Lexes.spellable {past cs left : List Char} {ts : List Token}
    (h : Lexes past cs ts left) : ∀ t ∈ ts, t.Spellable := by
  induction h with
  | nil => exact List.forall_mem_nil _
  | cons hg hl _ ih => exact List.forall_mem_cons.2 ⟨⟨_, _, _, rfl, hl⟩, ih⟩

/-- The tokens of a scan can be spelled. -/
theorem spellable_of_mem_scan {source : String} {t : Token} (h : t ∈ (scan source).tokens) :
    t.Spellable := by
  obtain ⟨left, hlexes⟩ := (scan_eq_iff.1 rfl : Analysis source.toList _ _).exists_lexes
  exact hlexes.spellable t h

/-! ## What stands behind a token -/

section Behind

variable {t : Token} {ts us : List Token} {l rest gap cs front : List Char} {data : String}

/-- The gap behind the first of the tokens: none where a word is glued to a minus, and a space
elsewhere. -/
inductive GapBehind (ts : List Token) : List Char → Prop
  | glued (h : Glued ts 0) : GapBehind ts []
  | apart (h : ¬ Glued ts 0) : GapBehind ts [' ']

theorem exists_gapBehind (ts : List Token) : ∃ gap, GapBehind ts gap := by
  by_cases h : Glued ts 0
  · exact ⟨[], .glued h⟩
  · exact ⟨[' '], .apart h⟩

theorem GapBehind.complete (h : GapBehind ts gap) : Complete gap := by
  cases h with
  | glued => exact complete_of_isBlank (List.forall_mem_nil _)
  | apart => exact complete_of_isBlank (List.forall_mem_singleton.2 (by decide))

theorem Lexical.Lexeme.of_minus (h : Lexeme l rest .minus data) :
    l.length = 1 ∧ ∀ rest', Lexeme l rest' .minus data := by
  cases h with
  | symbol hc => exact ⟨rfl, fun _ => .symbol hc⟩

/-- With the gap behind it, the lexeme of a token is its own. -/
theorem GapBehind.lexeme (h : GapBehind (t :: ts) gap) (hl : Lexeme l rest t.kind data) :
    Lexeme l (gap ++ cs) t.kind data := by
  cases h with
  | glued h =>
    obtain ⟨_, _, ⟨⟩, -, hminus, -⟩ := h
    rw [hminus] at hl ⊢
    exact hl.of_minus.2 _
  | apart =>
    refine hl.follows fun c hc hident => ?_
    cases hc
    exact absurd hident (by decide)

/-- Two tokens that are written with the gap between them are glued as they were. -/
theorem GapBehind.glued_iff (h : GapBehind (t :: ts) gap) (hl : Lexeme l rest t.kind data)
    (halike : List.Forall₂ Token.Alike ts us)
    (hplace : ∀ u ∈ us.head?, u.position = place (front ++ l ++ gap)) :
    Glued (t :: ts) 0 ↔ Glued (⟨t.kind, some data, place front⟩ :: us) 0 := by
  cases h with
  | glued h =>
    refine iff_of_true h ?_
    obtain ⟨_, word, ⟨⟩, hword, hminus, hident, -⟩ := h
    rw [hminus] at hl
    cases halike with
    | nil => cases hword
    | @cons _ u _ us hu _ =>
      cases hword
      refine ⟨_, u, rfl, rfl, hminus, hu.kind ▸ hident, ?_⟩
      rw [hplace u rfl]
      simp [place, hl.of_minus.1]
  | apart h =>
    refine iff_of_false h ?_
    rintro ⟨_, u, ⟨⟩, hu, -, -, hoffset⟩
    -- The token and the space behind it take two characters at least.
    obtain ⟨c, cs, rfl, -⟩ := hl.solid
    rw [hplace u (List.head?_eq_getElem?.trans hu)] at hoffset
    simp only [place, List.length_append, List.length_cons, List.length_nil] at hoffset
    omega

end Behind

/-! ## A text for the tokens -/

theorem exists_lexes_alike {ts : List Token} (h : ∀ t ∈ ts, t.Spellable) (past : List Char)
    {gap : List Char} (hgap : Complete gap) :
    ∃ cs us left, Lexes past (gap ++ cs) us left ∧ Gap left [] ∧
      List.Forall₂ Token.Alike ts us ∧ (∀ i, Glued ts i ↔ Glued us i) ∧
        ∀ u ∈ us.head?, u.position = place (past ++ gap) := by
  induction ts generalizing past gap with
  | nil =>
    have hleft := hgap []
    exact ⟨[], [], gap ++ [], .nil, by rwa [List.append_nil], .nil, fun _ => Iff.rfl, nofun⟩
  | cons t ts ih =>
    obtain ⟨⟨l, rest, data, hdata, hl⟩, hts⟩ := List.forall_mem_cons.1 h
    obtain ⟨gap', hgap'⟩ := exists_gapBehind (t :: ts)
    obtain ⟨cs, us, left, hlexes, hleft, halike, hglued, hplace⟩ :=
      ih hts (past ++ gap ++ l) hgap'.complete
    refine ⟨l ++ (gap' ++ cs), ⟨t.kind, some data, place (past ++ gap)⟩ :: us, left, ?_, hleft,
      .cons ⟨rfl, hdata⟩ halike, fun i => ?_, ?_⟩
    · rw [← List.append_assoc]
      exact .cons (hgap _) (hgap'.lexeme hl) hlexes
    · cases i with
      | zero => exact hgap'.glued_iff hl halike hplace
      | succ i => exact hglued i
    · rintro _ ⟨⟩
      rfl

/-- Tokens that can be spelled are those of a text, with the same words glued to minuses. -/
theorem exists_scan_alike {ts : List Token} (h : ∀ t ∈ ts, t.Spellable) :
    ∃ source p, (⟨ts, .ok p⟩ : Scan).Alike (scan source) := by
  obtain ⟨cs, us, left, hlexes, hleft, halike, hglued, -⟩ :=
    exists_lexes_alike h [] (complete_of_isBlank (List.forall_mem_nil _))
  have hdecomposes : Decomposes (String.ofList cs).toList us := by
    rw [String.toList_ofList]
    exact ⟨left, hlexes, hleft⟩
  refine ⟨String.ofList cs, .start, ?_⟩
  rw [scan_eq_of_analysis (.complete hdecomposes)]
  exact ⟨halike, hglued, rfl⟩

end Cnd
