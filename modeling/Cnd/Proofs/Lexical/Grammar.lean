import Cnd.Token.Lexer

/-!
# The lexical grammar

What the lexer may read, said without the lexer: gaps, lexemes, and the places at which no
lexeme begins. A gap or a lexeme is always one *in front of* the characters that follow it,
since a line comment runs up to the next line feed and an identifier as far as it can.

The facts at the end keep the classes of first characters apart: at every place of a text at
most one of the three readings is possible.
-/

namespace Cnd.Lexical

open Lexer

/-- The place behind the characters `before`, counted and not stepped through. -/
def place (before : List Char) : Position where
  line := 1 + before.count '\n'
  column := 1 + (before.reverse.takeWhile (· ≠ '\n')).length
  offset := before.length

/-- The gap `g` in front of `rest`: blanks, line comments that end just before a line feed or
at the end of the text, and block comments that end at the first `*/`. -/
inductive Gap : List Char → List Char → Prop where
  | nil {rest : List Char} : Gap [] rest
  | blank {c : Char} {g rest : List Char} (hc : Text.isBlank c) (hg : Gap g rest) :
      Gap (c :: g) rest
  | line {body g rest : List Char} (hbody : '\n' ∉ body)
      (hend : ∀ c ∈ (g ++ rest).head?, c = '\n') (hg : Gap g rest) :
      Gap ('/' :: '/' :: (body ++ g)) rest
  | block {body g rest : List Char} (hbody : ¬ ['*', '/'] <:+: body) (hg : Gap g rest) :
      Gap ('/' :: '*' :: (body ++ '*' :: '/' :: g)) rest

/-- What stands between two of `quote`, and what it spells: every character but the quote and
the backslash stands for itself, and a backslash takes the next character along. -/
inductive Content (quote : Char) : List Char → List Char → Prop where
  | nil : Content quote [] []
  | plain {c : Char} {raw text : List Char} (hquote : c ≠ quote) (hslash : c ≠ '\\')
      (h : Content quote raw text) : Content quote (c :: raw) (c :: text)
  | escape {e : Char} {raw text : List Char} (h : Content quote raw text) :
      Content quote ('\\' :: e :: raw) (unescape e :: text)

/-- The lexeme `l` in front of `rest`, with the kind and the data of its token. -/
inductive Lexeme : List Char → List Char → Token.Kind → String → Prop where
  | symbol {c : Char} {kind : Token.Kind} {rest : List Char}
      (hc : Token.Kind.ofSymbol? c = some kind) :
      Lexeme [c] rest kind (String.singleton c)
  | literal {q : Char} {raw text rest : List Char} (hq : isQuote q) (h : Content q raw text) :
      Lexeme (q :: (raw ++ [q])) rest .string (String.ofList text)
  | identifier {c : Char} {cs rest : List Char} (hfirst : c ≠ '-')
      (hpart : ∀ d ∈ c :: cs, isIdentifierPart d) (hend : ∀ d ∈ rest.head?, ¬ isIdentifierPart d) :
      Lexeme (c :: cs) rest .identifier (String.ofList (c :: cs))

/-- Why neither a gap nor a lexeme begins in front of the characters: the first of them begins
none, or begins a literal or a block comment that is not closed. -/
inductive Stuck : List Char → ScanError.Cause → Prop where
  | character {c : Char} {cs : List Char} (hblank : ¬ Text.isBlank c)
      (hsymbol : Token.Kind.ofSymbol? c = none) (hquote : ¬ isQuote c)
      (hident : ¬ isIdentifierPart c)
      (hcomment : c = '/' → ∀ d ∈ cs.head?, d ≠ '/' ∧ d ≠ '*') :
      Stuck (c :: cs) (.unexpectedCharacter c)
  | literal {q : Char} {cs : List Char} (hq : isQuote q)
      (hopen : ∀ raw text rest, Content q raw text → cs ≠ raw ++ q :: rest) :
      Stuck (q :: cs) (.unterminatedLiteral q)
  | comment {cs : List Char} (hopen : ¬ ['*', '/'] <:+: cs) :
      Stuck ('/' :: '*' :: cs) .unterminatedComment

/-- The characters `cs` behind `before` are gaps and lexemes in turn, those of the tokens `ts`,
and then `left`. A token is at the place where its lexeme begins. -/
inductive Lexes : List Char → List Char → List Token → List Char → Prop where
  | nil {before left : List Char} : Lexes before left [] left
  | cons {before g l rest left : List Char} {kind : Token.Kind} {data : String}
      {ts : List Token} (hg : Gap g (l ++ rest)) (hl : Lexeme l rest kind data)
      (h : Lexes (before ++ g ++ l) rest ts left) :
      Lexes before (g ++ l ++ rest) (⟨kind, some data, place (before ++ g)⟩ :: ts) left

/-- The whole text is gaps and lexemes in turn, with a gap at the end. -/
def Decomposes (cs : List Char) (ts : List Token) : Prop :=
  ∃ g, Lexes [] cs ts g ∧ Gap g []

/-- What a text scans to: the tokens of all of it, or those in front of the place where no gap
and no lexeme goes on. -/
inductive Analysis (cs : List Char) (ts : List Token) : Except ScanError Position → Prop where
  | complete (h : Decomposes cs ts) : Analysis cs ts (.ok (place cs))
  | stuck {done g rest : List Char} {cause : ScanError.Cause} (h : Lexes [] cs ts (g ++ rest))
      (hg : Gap g rest) (hs : Stuck rest cause) (hcs : cs = done ++ rest) :
      Analysis cs ts (.error ⟨cause, place done⟩)

/-! ## Places -/

theorem place_nil : place [] = .start := rfl

theorem place_append_singleton (before : List Char) (c : Char) :
    place (before ++ [c]) = (place before).next c := by
  unfold Position.next
  -- A line feed begins a line; any other character moves on by a column.
  by_cases hc : c = '\n'
  · rw [if_pos hc]
    simp [place, hc]
    omega
  · rw [if_neg hc]
    simp [place, hc]
    omega

/-- Stepping on from a counted place comes to the counted place. -/
theorem place_after (before cs : List Char) : (place before).after cs = place (before ++ cs) := by
  induction cs generalizing before with
  | nil => simp
  | cons c cs ih => rw [Position.after_cons, ← place_append_singleton, ih, List.append_assoc]; rfl

/-! ## Classes of characters -/

/-- Two sets of characters are disjoint if no member of a range of the one is in the other. -/
theorem not_inRanges_of_disjoint {rs qs : List (Nat × Nat)}
    (h : ∀ r ∈ rs, ∀ k < r.2 + 1 - r.1, ¬ Text.inRanges qs (r.1 + k)) {n : Nat}
    (hn : Text.inRanges rs n) : ¬ Text.inRanges qs n := by
  obtain ⟨r, hr, hlow, hhigh⟩ := Text.exists_range_of_inRanges hn
  have := h r hr (n - r.1) (by omega)
  rwa [show r.1 + (n - r.1) = n by omega] at this

theorem not_isAlphanumeric_of_isBlank {c : Char} (h : Text.isBlank c) :
    ¬ Text.isAlphanumeric c :=
  not_inRanges_of_disjoint (by decide +kernel) h

theorem not_isIdentifierStart_of_isBlank {c : Char} (h : Text.isBlank c) :
    ¬ isIdentifierStart c := by
  intro hstart
  simp only [isIdentifierStart, Bool.or_eq_true, beq_iff_eq] at hstart
  rcases hstart with ((hc | rfl) | rfl) | rfl
  · exact not_isAlphanumeric_of_isBlank h hc
  · exact absurd h (by decide)
  · exact absurd h (by decide)
  · exact absurd h (by decide)

theorem isIdentifierPart_iff {c : Char} (h : c ≠ '-') :
    isIdentifierPart c ↔ isIdentifierStart c := by
  simp [isIdentifierPart, h]

theorem not_isIdentifierPart_of_isBlank {c : Char} (h : Text.isBlank c) :
    ¬ isIdentifierPart c := by
  have hne : c ≠ '-' := by
    intro hc
    subst hc
    exact absurd h (by decide)
  rw [isIdentifierPart_iff hne]
  exact not_isIdentifierStart_of_isBlank h

theorem isIdentifierPart_of_isIdentifierStart {c : Char} (h : isIdentifierStart c) :
    isIdentifierPart c := by
  simp [isIdentifierPart, h]

theorem ne_hyphen_of_isIdentifierStart {c : Char} (h : isIdentifierStart c) : c ≠ '-' := by
  intro hc
  subst hc
  exact absurd h (by decide)

/-- The symbol characters, of which the hyphen alone continues an identifier. -/
theorem ofSymbol?_eq_some {c : Char} {kind : Token.Kind} (h : Token.Kind.ofSymbol? c = some kind) :
    (¬ Text.isBlank c ∧ ¬ isQuote c ∧ ¬ isIdentifierStart c ∧ c ≠ '/') ∧
      kind ≠ .eof ∧ kind ≠ .identifier ∧ kind ≠ .string := by
  unfold Token.Kind.ofSymbol? at h
  -- One case for each symbol character, and one for all others.
  split at h <;> first | (cases h; decide) | cases h

theorem isQuote_iff {c : Char} : isQuote c ↔ c = '\x27' ∨ c = '\x22' := by
  simp [isQuote]

/-- A quote begins literals and nothing else. -/
theorem not_of_isQuote {c : Char} (h : isQuote c) :
    ¬ Text.isBlank c ∧ Token.Kind.ofSymbol? c = none ∧ ¬ isIdentifierStart c ∧ c ≠ '/' ∧
      c ≠ '\\' := by
  rcases isQuote_iff.1 h with rfl | rfl <;> decide

end Cnd.Lexical
