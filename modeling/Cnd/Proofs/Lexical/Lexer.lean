import Cnd.Proofs.Lexical.Grammar

/-!
# The lexer reads the lexical grammar

At every place of a text exactly one of three things comes first: a gap and the end, a gap and a
lexeme, or a gap and a place where nothing goes on (`First.of`). The lexer does the matching
thing in each case (`next_lexeme`, `next_end`, `next_stuck`), so what it reads is determined by
the grammar alone.
-/

namespace Cnd.Lexical

open Lexer

/-! ## Runs -/

/-- A text begins with a longest run of characters that satisfy `p`. -/
theorem exists_run (p : Char → Bool) (cs : List Char) :
    ∃ run rest, cs = run ++ rest ∧ (∀ c ∈ run, p c) ∧ ∀ d ∈ rest.head?, ¬ p d := by
  refine ⟨cs.takeWhile p, cs.dropWhile p, List.takeWhile_append_dropWhile.symm,
    List.all_eq_true.1 List.all_takeWhile, fun d hd => ?_⟩
  have hstop := List.head?_dropWhile_not p cs
  rw [Option.mem_def.1 hd] at hstop
  simpa using hstop

theorem takeWhile_append_stop {p : Char → Bool} {cs rest : List Char} (hcs : ∀ c ∈ cs, p c)
    (hrest : ∀ d ∈ rest.head?, ¬ p d) :
    (cs ++ rest).takeWhile p = cs ∧ (cs ++ rest).dropWhile p = rest := by
  rw [List.takeWhile_append_of_pos hcs, List.dropWhile_append_of_pos hcs]
  cases rest with
  | nil => simp
  | cons d ds => simp [hrest d rfl]

/-! ## Block comments -/

theorem infix_of_infix_cons {c : Char} {cs l : List Char} (h : l <:+: cs) : l <:+: c :: cs :=
  h.trans (List.suffix_cons c cs).isInfix

/-- The first `*/` ends a block comment. -/
theorem closeComment_append {body : List Char} (h : ¬ ['*', '/'] <:+: body) (rest : List Char)
    (pos : Position) :
    closeComment (body ++ '*' :: '/' :: rest) pos =
      some ⟨rest, pos.after (body ++ ['*', '/'])⟩ := by
  induction body generalizing pos with
  | nil => rfl
  | cons c cs ih =>
    -- `*` as the last character of the body is not yet the end: the next one is `*` again.
    have hne : ∀ ds, c = '*' → cs ++ '*' :: '/' :: rest = '/' :: ds → False := by
      intro ds hc hds
      subst hc
      cases cs with
      | nil => simp at hds
      | cons d ds' =>
        obtain ⟨rfl, -⟩ := List.cons.inj hds
        exact h ⟨[], ds', rfl⟩
    rw [List.cons_append, closeComment.eq_2 _ _ _ hne, ih (fun hi => h (infix_of_infix_cons hi))]
    rfl

theorem closeComment_eq_none {cs : List Char} (h : ¬ ['*', '/'] <:+: cs) (pos : Position) :
    closeComment cs pos = none := by
  induction cs generalizing pos with
  | nil => rfl
  | cons c cs ih =>
    have hne : ∀ ds, c = '*' → cs = '/' :: ds → False := by
      intro ds hc hcs
      subst hc hcs
      exact h ⟨[], ds, rfl⟩
    rw [closeComment.eq_2 _ _ _ hne]
    exact ih (fun hi => h (infix_of_infix_cons hi)) _

/-- A text with a `*/` has a first one. -/
theorem exists_first_close {cs : List Char} (h : ['*', '/'] <:+: cs) :
    ∃ body rest, cs = body ++ '*' :: '/' :: rest ∧ ¬ ['*', '/'] <:+: body := by
  induction cs with
  | nil => simp at h
  | cons c cs ih =>
    rcases List.infix_cons_iff.1 h with hp | hi
    · obtain ⟨rest, hrest⟩ := hp
      exact ⟨[], rest, by simpa using hrest.symm, by simp⟩
    · obtain ⟨body, rest, rfl, hbody⟩ := ih hi
      -- The first one of the tail is the first one of all, unless one begins at the front.
      by_cases hstart : ['*', '/'] <+: c :: (body ++ '*' :: '/' :: rest)
      · obtain ⟨rest', hrest'⟩ := hstart
        exact ⟨[], rest', by simpa using hrest'.symm, by simp⟩
      · refine ⟨c :: body, rest, rfl, fun hb => ?_⟩
        rcases List.infix_cons_iff.1 hb with hp | hi'
        · exact hstart (hp.trans ((List.prefix_append _ _)))
        · exact hbody hi'

/-! ## Gaps -/

/-- No gap begins in front of the characters. -/
def Solid (cs : List Char) : Prop :=
  ∀ c ds, cs = c :: ds → ¬ Text.isBlank c ∧ (c = '/' → ∀ d ∈ ds.head?, d ≠ '/' ∧ d ≠ '*')

theorem skipGap_solid {cs : List Char} (h : Solid cs) (pos : Position) :
    skipGap cs pos = .ok ⟨cs, pos⟩ := by
  rw [skipGap.eq_def]
  split
  · exact absurd rfl ((h _ _ rfl).2 rfl '/' rfl).1
  · exact absurd rfl ((h _ _ rfl).2 rfl '*' rfl).2
  · rename_i hslash hstar
    simp [(h _ _ rfl).1]
  · rfl

theorem skipGap_blank {c : Char} (hc : Text.isBlank c) (cs : List Char) (pos : Position) :
    skipGap (c :: cs) pos = skipGap cs (pos.next c) := by
  have hne : c ≠ '/' := by
    intro hslash
    subst hslash
    exact absurd hc (by decide)
  rw [skipGap.eq_3 _ _ _ (fun _ h _ => hne h) (fun _ h _ => hne h), if_pos hc]

/-- A line comment is skipped up to the line feed, which is left. -/
theorem skipGap_line {body rest : List Char} (hbody : '\n' ∉ body)
    (hend : ∀ c ∈ rest.head?, c = '\n') (pos : Position) :
    skipGap ('/' :: '/' :: (body ++ rest)) pos =
      skipGap rest (pos.after ('/' :: '/' :: body)) := by
  have hall : ∀ c ∈ body, (c != '\n') = true := by
    intro c hc
    simpa using fun h : c = '\n' => hbody (h ▸ hc)
  obtain ⟨htake, hdrop⟩ := takeWhile_append_stop hall (by simpa using hend)
  rw [skipGap.eq_1, Cursor.skipWhile_eq, htake, hdrop]
  simp

theorem skipGap_block {body : List Char} (hbody : ¬ ['*', '/'] <:+: body) (rest : List Char)
    (pos : Position) :
    skipGap ('/' :: '*' :: (body ++ '*' :: '/' :: rest)) pos =
      skipGap rest (pos.after ('/' :: '*' :: (body ++ ['*', '/']))) := by
  rw [skipGap.eq_2, closeComment_append hbody]
  simp

theorem skipGap_open {cs : List Char} (h : ¬ ['*', '/'] <:+: cs) (pos : Position) :
    skipGap ('/' :: '*' :: cs) pos = .error pos := by
  rw [skipGap.eq_2, closeComment_eq_none h]

/-- A gap is skipped, whatever follows it. -/
theorem skipGap_append {g rest : List Char} (h : Gap g rest) (pos : Position) :
    skipGap (g ++ rest) pos = skipGap rest (pos.after g) := by
  induction h generalizing pos with
  | nil => rfl
  | blank hc _ ih => rw [List.cons_append, skipGap_blank hc, ih, Position.after_cons]
  | @line body g rest hbody hend _ ih =>
    rw [List.cons_append, List.cons_append, List.append_assoc, skipGap_line hbody hend, ih,
      ← Position.after_append]
    simp
  | @block body g rest hbody _ ih =>
    rw [show '/' :: '*' :: (body ++ '*' :: '/' :: g) ++ rest =
        '/' :: '*' :: (body ++ '*' :: '/' :: (g ++ rest)) by simp,
      skipGap_block hbody, ih, ← Position.after_append]
    simp

/-! ## Lexemes -/

theorem closeLiteral_append {q : Char} {raw text : List Char} (hq : isQuote q)
    (h : Content q raw text) (content rest : List Char) (pos : Position) :
    closeLiteral q content (raw ++ q :: rest) pos =
      some (String.ofList (content.reverse ++ text), ⟨rest, pos.after (raw ++ [q])⟩) := by
  induction h generalizing content pos with
  | nil =>
    rw [List.nil_append, closeLiteral.eq_def]
    simp
  | plain hquote hslash _ ih =>
    rw [List.cons_append, closeLiteral.eq_def]
    simp only [hquote, hslash, if_false, ih]
    simp
  | escape _ ih =>
    -- A backslash is no quote, so it takes the next character along whichever that is.
    have hne : '\\' ≠ q := (not_of_isQuote hq).2.2.2.2.symm
    rw [List.cons_append, closeLiteral.eq_def]
    simp only [hne, if_false, if_true, List.cons_append, ih]
    simp

/-- A literal that the lexer closes has a content. -/
theorem content_of_closeLiteral {q : Char} {content cs : List Char} {pos : Position} {s : String}
    {behind : Cursor} (h : closeLiteral q content cs pos = some (s, behind)) :
    ∃ raw text rest, Content q raw text ∧ cs = raw ++ q :: rest := by
  fun_induction closeLiteral q content cs pos with
  | case1 => simp at h
  | case2 content cs pos => exact ⟨[], [], cs, .nil, rfl⟩
  | case3 => simp at h
  | case4 content pos e cs hq ih =>
    obtain ⟨raw, text, rest, hraw, rfl⟩ := ih h
    exact ⟨'\\' :: e :: raw, unescape e :: text, rest, .escape hraw, rfl⟩
  | case5 content c cs pos hq hslash ih =>
    obtain ⟨raw, text, rest, hraw, rfl⟩ := ih h
    exact ⟨c :: raw, c :: text, rest, .plain hq hslash hraw, rfl⟩

theorem closeLiteral_open {q : Char} {cs : List Char}
    (hopen : ∀ raw text rest, Content q raw text → cs ≠ raw ++ q :: rest) (content : List Char)
    (pos : Position) : closeLiteral q content cs pos = none := by
  cases h : closeLiteral q content cs pos with
  | none => rfl
  | some r =>
    obtain ⟨raw, text, rest, hraw, hcs⟩ := content_of_closeLiteral h
    exact absurd hcs (hopen raw text rest hraw)

/-- A lexeme is not empty, and no gap begins in front of it. -/
theorem Lexeme.solid {l rest : List Char} {kind : Token.Kind} {data : String}
    (h : Lexeme l rest kind data) :
    ∃ c cs, l = c :: cs ∧ ¬ Text.isBlank c ∧ c ≠ '/' := by
  cases h with
  | symbol hc =>
    obtain ⟨⟨hblank, -, -, hslash⟩, -⟩ := ofSymbol?_eq_some hc
    exact ⟨_, _, rfl, hblank, hslash⟩
  | literal hq h =>
    obtain ⟨hblank, -, -, hslash, -⟩ := not_of_isQuote hq
    exact ⟨_, _, rfl, hblank, hslash⟩
  | @identifier c cs _ hfirst hpart _ =>
    have hstart := (isIdentifierPart_iff hfirst).1 (hpart c (by simp))
    refine ⟨c, cs, rfl, fun hb => not_isIdentifierStart_of_isBlank hb hstart, ?_⟩
    intro hslash
    subst hslash
    exact absurd hstart (by decide)

theorem Lexeme.kind_ne_eof {l rest : List Char} {kind : Token.Kind} {data : String}
    (h : Lexeme l rest kind data) : kind ≠ .eof := by
  cases h with
  | symbol hc => exact (ofSymbol?_eq_some hc).2.1
  | literal => simp
  | identifier => simp

/-- The data of an identifier are its characters. -/
theorem Lexeme.data_identifier {l rest : List Char} {data : String}
    (h : Lexeme l rest .identifier data) : data = String.ofList l := by
  cases h with
  | symbol hc => exact absurd rfl (ofSymbol?_eq_some hc).2.2.1
  | identifier => rfl

/-- A lexeme is read as the token it stands for. -/
theorem readLexeme_append {c : Char} {cs rest : List Char} {kind : Token.Kind} {data : String}
    (h : Lexeme (c :: cs) rest kind data) (pos : Position) :
    readLexeme c (cs ++ rest) pos =
      (.ok ⟨kind, some data, pos⟩, ⟨rest, pos.after (c :: cs)⟩) := by
  generalize hl : c :: cs = l at h
  cases h with
  | symbol hc =>
    obtain ⟨rfl, rfl⟩ := List.cons.inj hl
    simp [readLexeme, hc]
  | @literal q raw text _ hq h =>
    obtain ⟨rfl, rfl⟩ := List.cons.inj hl
    simp [readLexeme, (not_of_isQuote hq).2.1, hq, closeLiteral_append hq h]
  | @identifier d ds _ hfirst hpart hend =>
    obtain ⟨rfl, rfl⟩ := List.cons.inj hl
    have hstart := (isIdentifierPart_iff hfirst).1 (hpart c (by simp))
    -- The lexer asks for a symbol and a quote first; the first character is neither.
    have hsymbol : Token.Kind.ofSymbol? c = none := by
      cases hk : Token.Kind.ofSymbol? c with
      | none => rfl
      | some k => exact absurd hstart (ofSymbol?_eq_some hk).1.2.2.1
    have hquote : ¬ isQuote c := fun hq => (not_of_isQuote hq).2.2.1 hstart
    obtain ⟨htake, hdrop⟩ :=
      takeWhile_append_stop (fun d hd => hpart d (List.mem_cons_of_mem c hd)) hend
    simp [readLexeme, hsymbol, hquote, hstart, Cursor.skipWhile_eq, htake, hdrop]

/-! ## What comes first -/

/-- What comes first in a text: a gap and the end, a gap and a lexeme, or a gap and a place
where nothing goes on. -/
inductive First : List Char → Prop where
  | finished {g : List Char} (hg : Gap g []) : First g
  | lexeme {g l rest : List Char} {kind : Token.Kind} {data : String} (hg : Gap g (l ++ rest))
      (hl : Lexeme l rest kind data) : First (g ++ (l ++ rest))
  | stuck {g rest : List Char} {cause : ScanError.Cause} (hg : Gap g rest)
      (hs : Stuck rest cause) : First (g ++ rest)

/-- A piece of a gap may come in front of whatever comes first. -/
theorem First.extend {p cs : List Char} (h : First cs)
    (hp : ∀ g rest, cs = g ++ rest → Gap g rest → Gap (p ++ g) rest) : First (p ++ cs) := by
  cases h with
  | finished hg => exact .finished (hp cs [] (by simp) hg)
  | lexeme hg hl =>
    rw [← List.append_assoc]
    exact .lexeme (hp _ _ rfl hg) hl
  | stuck hg hs =>
    rw [← List.append_assoc]
    exact .stuck (hp _ _ rfl hg) hs

/-- The lexeme that a character begins, or why it begins none. -/
theorem First.of_head {c : Char} {cs : List Char} (hblank : ¬ Text.isBlank c)
    (hcomment : c = '/' → ∀ d ∈ cs.head?, d ≠ '/' ∧ d ≠ '*') : First (c :: cs) := by
  cases hsymbol : Token.Kind.ofSymbol? c with
  | some kind => exact .lexeme (g := []) .nil (.symbol hsymbol)
  | none =>
    by_cases hq : isQuote c
    · by_cases hclosed : ∃ raw text rest, Content c raw text ∧ cs = raw ++ c :: rest
      · obtain ⟨raw, text, rest, hraw, rfl⟩ := hclosed
        have h := @First.lexeme [] _ rest _ _ .nil (.literal hq hraw)
        simpa using h
      · refine .stuck (g := []) .nil (.literal hq fun raw text rest hraw hcs => ?_)
        exact hclosed ⟨raw, text, rest, hraw, hcs⟩
    · by_cases hpart : isIdentifierPart c
      · have hfirst : c ≠ '-' := by
          intro hhyphen
          subst hhyphen
          exact absurd hsymbol (by decide)
        -- The run behind the character is taken as far as it goes, so the lexeme is maximal.
        obtain ⟨run, rest, rfl, hrun, hend⟩ := exists_run isIdentifierPart cs
        have hall : ∀ d ∈ c :: run, isIdentifierPart d := by simpa [hpart] using hrun
        exact .lexeme (g := []) .nil (.identifier hfirst hall hend)
      · exact .stuck (g := []) .nil (.character hblank hsymbol hq hpart hcomment)

theorem head?_ne_of_not_cons {c d : Char} {cs : List Char} (h : ¬ ∃ ds, cs = c :: ds)
    (hd : d ∈ cs.head?) : d ≠ c := by
  intro hdc
  subst hdc
  exact h (List.head?_eq_some_iff.1 hd)

/-- At every place of a text one of the three comes first. -/
theorem First.of (cs : List Char) : First cs := by
  induction hn : cs.length using Nat.strongRecOn generalizing cs with
  | ind n ih =>
    subst hn
    match cs with
    | [] => exact .finished .nil
    | c :: cs =>
      -- What begins a gap is taken off, and the rest is shorter; nothing else recurs.
      by_cases hblank : Text.isBlank c
      · exact (ih cs.length (by simp) cs rfl).extend (p := [c]) fun g rest _ hg => .blank hblank hg
      by_cases hline : c = '/' ∧ ∃ ds, cs = '/' :: ds
      · obtain ⟨rfl, ds, rfl⟩ := hline
        obtain ⟨body, rest, rfl, hbody, hend⟩ := exists_run (· != '\n') ds
        have hbody' : '\n' ∉ body := fun hm => by simpa using hbody _ hm
        have h := (ih rest.length (by simp; omega) rest rfl).extend (p := '/' :: '/' :: body)
          fun g rest' hg h => .line hbody' (by simpa [← hg] using hend) h
        simpa using h
      by_cases hblock : c = '/' ∧ ∃ ds, cs = '*' :: ds
      · obtain ⟨rfl, ds, rfl⟩ := hblock
        by_cases hclosed : ['*', '/'] <:+: ds
        · obtain ⟨body, rest, rfl, hbody⟩ := exists_first_close hclosed
          have h := (ih rest.length (by simp; omega) rest rfl).extend
            (p := '/' :: '*' :: (body ++ ['*', '/']))
            fun g rest' hg h => by simpa using Gap.block hbody h
          simpa using h
        · exact .stuck (g := []) .nil (.comment hclosed)
      · refine .of_head hblank fun hc d hd => ⟨?_, ?_⟩
        · exact head?_ne_of_not_cons (fun h => hline ⟨hc, h⟩) hd
        · exact head?_ne_of_not_cons (fun h => hblock ⟨hc, h⟩) hd

/-! ## The next token -/

theorem next_eq_readLexeme {c : Cursor} {g cs : List Char} {d : Char}
    (hc : c.rest = g ++ d :: cs) (hg : Gap g (d :: cs)) (hblank : ¬ Text.isBlank d)
    (hcomment : d = '/' → ∀ e ∈ cs.head?, e ≠ '/' ∧ e ≠ '*') :
    Lexer.next c = readLexeme d cs (c.position.after g) := by
  have hsolid : Solid (d :: cs) := by
    intro e es heq
    obtain ⟨rfl, rfl⟩ := List.cons.inj heq
    exact ⟨hblank, hcomment⟩
  rw [Lexer.next, hc, skipGap_append hg, skipGap_solid hsolid]

/-- Behind a gap the lexer reads the lexeme that follows, at the place where it begins. -/
theorem next_lexeme {c : Cursor} {g l rest : List Char} {kind : Token.Kind} {data : String}
    (hc : c.rest = g ++ (l ++ rest)) (hg : Gap g (l ++ rest)) (hl : Lexeme l rest kind data) :
    Lexer.next c =
      (.ok ⟨kind, some data, c.position.after g⟩, ⟨rest, c.position.after (g ++ l)⟩) := by
  obtain ⟨d, cs, rfl, hblank, hslash⟩ := hl.solid
  rw [next_eq_readLexeme hc hg hblank (fun h => absurd h hslash), Position.after_append]
  exact readLexeme_append hl _

/-- Where a lexeme begins, the lexer reads it and stops right behind it. -/
theorem Lexeme.next {l rest : List Char} {kind : Token.Kind} {data : String}
    (h : Lexeme l rest kind data) (pos : Position) :
    Lexer.next ⟨l ++ rest, pos⟩ = (.ok ⟨kind, some data, pos⟩, ⟨rest, pos.after l⟩) :=
  next_lexeme (c := ⟨l ++ rest, pos⟩) (g := []) rfl .nil h

/-- Behind a gap that nothing follows the lexer is at the end. -/
theorem next_end {c : Cursor} (hg : Gap c.rest []) :
    Lexer.next c = (.ok (.atEnd (c.position.after c.rest)), ⟨[], c.position.after c.rest⟩) := by
  -- The gap is followed by nothing, and nothing is skipped there.
  have h := skipGap_append hg c.position
  have hnil : Solid [] := by simp [Solid]
  rw [List.append_nil, skipGap_solid hnil] at h
  rw [Lexer.next, h]

/-- Where nothing goes on, the lexer fails, at the place where it stopped being able to. -/
theorem next_stuck {c : Cursor} {g rest : List Char} {cause : ScanError.Cause}
    (hc : c.rest = g ++ rest) (hg : Gap g rest) (hs : Stuck rest cause) :
    (Lexer.next c).1 = .error ⟨cause, c.position.after g⟩ := by
  cases hs with
  | @character d cs hblank hsymbol hquote hident hcomment =>
    -- A hyphen is a symbol, so a character that continues no identifier begins none either.
    have hstart : ¬ isIdentifierStart d := fun h =>
      hident (isIdentifierPart_of_isIdentifierStart h)
    rw [next_eq_readLexeme hc hg hblank hcomment]
    simp [readLexeme, hsymbol, hquote, hstart]
  | @literal q cs hq hopen =>
    obtain ⟨hblank, hsymbol, -, hslash, -⟩ := not_of_isQuote hq
    rw [next_eq_readLexeme hc hg hblank (fun h => absurd h hslash)]
    simp [readLexeme, hsymbol, hq, closeLiteral_open hopen]
  | comment hopen =>
    rw [Lexer.next, hc, skipGap_append hg, skipGap_open hopen]

end Cnd.Lexical
