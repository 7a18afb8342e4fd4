import Mathlib.Logic.Function.Iterate
import Cnd.Proofs.Lexical.Scan

/-!
# Asking for tokens again and again

A lexer may be asked for the next token any number of times, also behind an error. First come the
tokens of the scan, and then one of three things happens for good (`requests_settle`). The lexer is
at the end and yields the end token; or it failed at a literal or a comment that is not closed,
which took all the rest, and is at the end from then on; or it stands in front of a character that
begins no token and fails there ever after. Wherever it stands, line and column are those of the
characters behind it (`Over`).
-/

namespace Cnd.Lexical

open Lexer

/-! ## Requests -/

/-- The cursor after `n` requests for a token, whatever came of them. -/
def behind (n : Nat) (c : Cursor) : Cursor := (fun c => (next c).2)^[n] c

/-- What a request comes to after `n` requests before it. -/
def reply (c : Cursor) (n : Nat) : Except ScanError Token := (next (behind n c)).1

/-- What all requests come to, for good, at the end of the text or where it is stuck. -/
inductive Outlook (cs : List Char) : (Nat → Except ScanError Token) → Prop where
  /-- Each request yields the end token. -/
  | ended {replies : Nat → Except ScanError Token}
      (hend : ∀ n, replies n = .ok (.atEnd (place cs))) : Outlook cs replies
  /-- A literal or a comment is not closed; behind it is the end. -/
  | unterminated {replies : Nat → Except ScanError Token} {e : ScanError}
      (htext : e.text = "Unterminated string literal" ∨ e.text = "Unterminated block comment")
      (herror : replies 0 = .error e)
      (hend : ∀ n, replies (n + 1) = .ok (.atEnd (place cs))) : Outlook cs replies
  /-- A character begins no token, however often it is looked at. -/
  | unexpected {replies : Nat → Except ScanError Token} {e : ScanError} {c : Char}
      (htext : e.text = s!"Unexpected character: {Text.quoted (String.singleton c)}")
      (herror : ∀ n, replies n = .error e) : Outlook cs replies

/-- The cursor stands somewhere in the text, and its position is the place behind the characters
in front of it. -/
def Over (cs : List Char) (c : Cursor) : Prop :=
  ∃ past, cs = past ++ c.rest ∧ c.position = place past

section Requests

variable {c : Cursor} {cs past g rest : List Char}

theorem behind_succ (n : Nat) (c : Cursor) : behind (n + 1) c = behind n (next c).2 := rfl

theorem behind_succ' (n : Nat) (c : Cursor) : behind (n + 1) c = (next (behind n c)).2 :=
  Function.iterate_succ_apply' _ n c

theorem reply_zero (c : Cursor) : reply c 0 = (next c).1 := rfl

theorem reply_succ (c : Cursor) (n : Nat) : reply c (n + 1) = reply (next c).2 n := rfl

theorem reply_add (c : Cursor) (m n : Nat) : reply c (m + n) = reply (behind m c) n := by
  rw [reply, reply, behind, Nat.add_comm, Function.iterate_add_apply]
  rfl

/-- Where a request moves nothing, all others are answered alike. -/
theorem reply_of_fixed (h : (next c).2 = c) (n : Nat) : reply c n = (next c).1 := by
  rw [reply, behind, Function.iterate_fixed h]

/-! ## Where the lexer stops -/

theorem next_at_end (pos : Position) : next ⟨[], pos⟩ = (.ok (.atEnd pos), ⟨[], pos⟩) :=
  next_end .nil

/-- The lexer stays in front of a character that begins no token. -/
theorem next_unexpected {d : Char} (hc : c.rest = g ++ rest) (hg : Gap g rest)
    (hs : Stuck rest (.unexpectedCharacter d)) : (next c).2 = ⟨rest, c.position.after g⟩ := by
  cases hs with
  | @character d cs hblank hsymbol hquote hident hcomment =>
    have hstart : ¬ isIdentifierStart d := fun h =>
      hident (isIdentifierPart_of_isIdentifierStart h)
    rw [next_eq_readLexeme hc hg hblank hcomment]
    simp [readLexeme, hsymbol, hquote, hstart]

/-- A literal or a comment that is not closed takes all the rest. -/
theorem next_unterminated {cause : ScanError.Cause} (hc : c.rest = g ++ rest) (hg : Gap g rest)
    (hs : Stuck rest cause) (hcause : ∀ d, cause ≠ .unexpectedCharacter d) :
    (next c).2 = ⟨[], c.position.after c.rest⟩ := by
  cases hs with
  | character => exact absurd rfl (hcause _)
  | @literal q cs hq hopen =>
    obtain ⟨hblank, hsymbol, -, hslash, -⟩ := not_of_isQuote hq
    rw [next_eq_readLexeme hc hg hblank (fun h => absurd h hslash), hc, Position.after_append]
    simp [readLexeme, hsymbol, hq, closeLiteral_open hopen, Cursor.toEnd]
  | comment hopen =>
    rw [next, hc, skipGap_append hg, skipGap_open hopen]
    rfl

/-! ## The invariant -/

theorem Over.start (cs : List Char) : Over cs ⟨cs, .start⟩ := ⟨[], rfl, rfl⟩

/-- A request takes some characters, none maybe, and the position moves along. -/
theorem exists_taken (c : Cursor) : ∃ taken, c.rest = taken ++ (next c).2.rest ∧
    (next c).2.position = c.position.after taken := by
  generalize hrest : c.rest = cs
  cases First.of cs with
  | finished hg =>
    subst hrest
    rw [next_end hg]
    exact ⟨c.rest, by simp, rfl⟩
  | @lexeme g l rest kind data hg hl =>
    rw [next_lexeme hrest hg hl]
    exact ⟨g ++ l, by simp, rfl⟩
  | @stuck g rest cause hg hs =>
    by_cases hcause : ∃ d, cause = .unexpectedCharacter d
    · obtain ⟨d, rfl⟩ := hcause
      rw [next_unexpected hrest hg hs]
      exact ⟨g, rfl, rfl⟩
    · rw [next_unterminated hrest hg hs (fun d hd => hcause ⟨d, hd⟩), hrest]
      exact ⟨g ++ rest, by simp, rfl⟩

theorem Over.next (h : Over cs c) : Over cs (next c).2 ∧
    c.position.offset ≤ (next c).2.position.offset := by
  obtain ⟨past, hcs, hposition⟩ := h
  obtain ⟨taken, hrest, hmoved⟩ := exists_taken c
  refine ⟨⟨past ++ taken, ?_, ?_⟩, ?_⟩
  · rw [hcs, hrest, List.append_assoc]
  · rw [hmoved, hposition, place_after]
  · rw [hmoved, Position.offset_after]
    omega

theorem Over.behind (h : Over cs c) (n : Nat) : Over cs (behind n c) := by
  induction n with
  | zero => exact h
  | succ n ih =>
    rw [behind_succ']
    exact ih.next.1

theorem Over.offset_mono (h : Over cs c) {m n : Nat} (hmn : m ≤ n) :
    (Lexical.behind m c).position.offset ≤ (Lexical.behind n c).position.offset := by
  induction hmn with
  | refl => exact Int.le_refl _
  | @step n _ ih =>
    rw [behind_succ']
    exact Int.le_trans ih (h.behind n).next.2

theorem Over.offset_le (h : Over cs c) : c.position.offset ≤ cs.length := by
  obtain ⟨past, rfl, hposition⟩ := h
  rw [hposition, List.length_append]
  show (past.length : Int) ≤ _
  omega

/-! ## What the replies are -/

/-- Lexemes are replied one by one. -/
theorem replies_lexes {left : List Char} {ts : List Token} (h : Lexes past cs ts left) :
    ∃ taken, cs = taken ++ left ∧
      behind ts.length ⟨cs, place past⟩ = ⟨left, place (past ++ taken)⟩ ∧
      ∀ n (hn : n < ts.length), reply ⟨cs, place past⟩ n = .ok ts[n] := by
  induction h with
  | nil => exact ⟨[], rfl, by simp [behind], nofun⟩
  | @cons past g l rest left kind data ts hg hl _ ih =>
    obtain ⟨taken, rfl, hbehind, hreply⟩ := ih
    have hnext := next_lexeme (c := ⟨g ++ l ++ (taken ++ left), place past⟩)
      (List.append_assoc ..) hg hl
    rw [place_after, place_after, ← List.append_assoc past] at hnext
    refine ⟨g ++ l ++ taken, by simp, ?_, fun n hn => ?_⟩
    · rw [List.length_cons, behind_succ, hnext, hbehind]
      simp
    · cases n with
      | zero => rw [reply_zero, hnext, List.getElem_cons_zero]
      | succ n =>
        have hn' : n < ts.length := Nat.lt_of_succ_lt_succ hn
        rw [reply_succ, hnext, hreply n hn', List.getElem_cons_succ]

/-- Every lexeme has a character of its own. -/
theorem Lexes.length_le {left : List Char} {ts : List Token} (h : Lexes past cs ts left) :
    ts.length + left.length ≤ cs.length := by
  induction h with
  | nil => simp
  | cons hg hl _ ih =>
    obtain ⟨c, l', rfl, -⟩ := hl.solid
    simp only [List.length_cons, List.length_append]
    omega

theorem outlook_end (hg : Gap rest []) (past : List Char) :
    Outlook (past ++ rest) (reply ⟨rest, place past⟩) := by
  have hnext := next_end (c := ⟨rest, place past⟩) hg
  rw [place_after] at hnext
  refine .ended fun n => ?_
  cases n with
  | zero => rw [reply_zero, hnext]
  | succ n => rw [reply_succ, hnext, reply_of_fixed (by rw [next_at_end]), next_at_end]

theorem outlook_stuck {cause : ScanError.Cause} (hg : Gap g rest) (hs : Stuck rest cause)
    (past : List Char) : Outlook (past ++ (g ++ rest)) (reply ⟨g ++ rest, place past⟩) := by
  have herror := next_stuck (c := ⟨g ++ rest, place past⟩) rfl hg hs
  by_cases hcause : ∃ d, cause = .unexpectedCharacter d
  · obtain ⟨d, rfl⟩ := hcause
    have hstays := next_unexpected (c := ⟨g ++ rest, place past⟩) rfl hg hs
    -- Behind the gap the lexer is where it will be after any further request.
    have hfixed := next_unexpected (c := ⟨rest, (place past).after g⟩) rfl .nil hs
    have hagain := next_stuck (c := ⟨rest, (place past).after g⟩) rfl .nil hs
    refine .unexpected (c := d) (e := ⟨.unexpectedCharacter d, (place past).after g⟩) rfl
      fun n => ?_
    cases n with
    | zero => rw [reply_zero, herror]
    | succ n =>
      rw [reply_succ, hstays, reply_of_fixed hfixed, hagain]
      rfl
  · have hopen : ∀ d, cause ≠ .unexpectedCharacter d := fun d hd => hcause ⟨d, hd⟩
    have hend := next_unterminated (c := ⟨g ++ rest, place past⟩) rfl hg hs hopen
    rw [place_after] at hend
    refine .unterminated ?_ herror fun n => ?_
    · cases hs with
      | character => exact absurd rfl (hopen _)
      | literal => exact .inl rfl
      | comment => exact .inr rfl
    · rw [reply_succ, hend, reply_of_fixed (by rw [next_at_end]), next_at_end]

/-- Behind the lexemes of a text all requests come to the same, for good. -/
theorem Analysis.outlook {ts : List Token} {ending : Except ScanError Position}
    (h : Analysis cs ts ending) : ∃ left, Lexes [] cs ts left ∧
      ∀ past, Outlook (past ++ left) (reply ⟨left, place past⟩) := by
  cases h with
  | complete h =>
    obtain ⟨left, hlexes, hg⟩ := h
    exact ⟨left, hlexes, outlook_end hg⟩
  | stuck hlexes hg hs => exact ⟨_, hlexes, outlook_stuck hg hs⟩

end Requests

/-- **Requests for tokens make progress or are stuck for good.** However often the lexer is asked,
it yields the tokens of the scan, no more of them than the text has characters, and then goes on in
one of three ways forever. Line and column are at all times those of the place where the lexer
stands, which never moves back and never out of the text. -/
theorem requests_settle (source : String) :
    (scan source).tokens.length ≤ source.length ∧
      (∀ t ∈ (scan source).tokens, t.kind ≠ .eof) ∧
      (∀ n (h : n < (scan source).tokens.length),
        reply (.ofString source) n = .ok (scan source).tokens[n]) ∧
      Outlook source.toList
        (fun n => reply (.ofString source) ((scan source).tokens.length + n)) ∧
      (∀ n, Over source.toList (behind n (.ofString source))) ∧
      (∀ m n, m ≤ n → (behind m (.ofString source)).position.offset ≤
        (behind n (.ofString source)).position.offset) ∧
      ∀ n, (behind n (.ofString source)).position.offset ≤ source.length := by
  have ha : Analysis source.toList (scan source).tokens (scan source).ending :=
    scan_eq_iff.1 rfl
  obtain ⟨left, hlexes, houtlook⟩ := ha.outlook
  obtain ⟨taken, hcs, hbehind, hreply⟩ := replies_lexes hlexes
  have hover : Over source.toList (.ofString source) := .start _
  refine ⟨?_, hlexes.kind_ne_eof, hreply, ?_, hover.behind, fun _ _ => hover.offset_mono,
    fun n => ?_⟩
  · have hlength := hlexes.length_le
    rw [String.length_toList] at hlength
    omega
  · have hleft := houtlook taken
    simp only [reply_add]
    rwa [hcs, Cursor.ofString, ← place_nil, hbehind, List.nil_append]
  · rw [← String.length_toList]
    exact (hover.behind n).offset_le

example : (reply (.ofString "/*/") 0).toOption = none ∧
    (reply (.ofString "/*/") 1).toOption = some (.atEnd ⟨1, 4, 3⟩) := by decide +kernel

end Cnd.Lexical
