import Cnd.Text.Alphanumeric
import Cnd.Text.Blank
import Cnd.Token.Basic

/-!
# From text to tokens

The lexer moves a cursor over the characters of a document. It skips a gap (blanks, `//`
comments up to the end of the line, `/* */` comments) and reads one lexeme: a symbol, a
quoted literal, or an identifier. Every step returns the characters that are left and the
position behind the characters it took, and a step that yields a token leaves fewer
characters than it found, by which `scanFrom` terminates.

A failed step leaves the cursor where it stood when it failed: at the end of the text for a
comment or literal that is not closed, in front of a character that begins no token.
-/

namespace Cnd

/-- What makes a text unreadable as tokens. -/
inductive ScanError.Cause where
  | unexpectedCharacter (c : Char)
  | unterminatedLiteral (quote : Char)
  | unterminatedComment
deriving DecidableEq, Repr

/-- A lexical error and the place where its character, literal or comment starts. -/
structure ScanError where
  cause : ScanError.Cause
  position : Position
deriving DecidableEq, Repr

namespace ScanError

/-- What is wrong, in words, without the place. -/
def text (e : ScanError) : String :=
  match e.cause with
  | .unexpectedCharacter c => s!"Unexpected character: {Text.quoted (String.singleton c)}"
  | .unterminatedLiteral _ => "Unterminated string literal"
  | .unterminatedComment => "Unterminated block comment"

/-- The character at the place of the error. -/
def character (e : ScanError) : Char :=
  match e.cause with
  | .unexpectedCharacter c => c
  | .unterminatedLiteral quote => quote
  | .unterminatedComment => '/'

end ScanError

/-- The characters of a document that are still to be read, and where they start. -/
structure Cursor where
  rest : List Char
  position : Position
deriving DecidableEq, Repr

namespace Cursor

/-- The cursor at the start of a text. -/
def ofString (source : String) : Cursor := ⟨source.toList, .start⟩

/-- The cursor behind the longest run of characters that satisfy `p`. -/
def skipWhile (p : Char → Bool) : List Char → Position → Cursor
  | [], pos => ⟨[], pos⟩
  | c :: cs, pos => if p c then skipWhile p cs (pos.next c) else ⟨c :: cs, pos⟩

def toEnd (cs : List Char) (pos : Position) : Cursor := ⟨[], pos.after cs⟩

theorem skipWhile_eq (p : Char → Bool) (cs : List Char) (pos : Position) :
    skipWhile p cs pos = ⟨cs.dropWhile p, pos.after (cs.takeWhile p)⟩ := by
  induction cs generalizing pos with
  | nil => rfl
  | cons c cs ih => by_cases h : p c <;> simp [skipWhile, h, ih]

end Cursor

namespace Lexer

/-! ## Gaps -/

/-- The cursor behind the first `*/`, if there is one. -/
def closeComment : List Char → Position → Option Cursor
  | '*' :: '/' :: cs, pos => some ⟨cs, (pos.next '*').next '/'⟩
  | c :: cs, pos => closeComment cs (pos.next c)
  | [], _ => none

theorem length_closeComment {cs : List Char} {pos : Position} {c : Cursor}
    (h : closeComment cs pos = some c) : c.rest.length < cs.length := by
  fun_induction closeComment cs pos with
  | case1 => cases h; simp only [List.length_cons]; omega
  | case2 _ _ _ _ ih => have := ih h; simp only [List.length_cons]; omega
  | case3 => simp at h

/-- Skips blanks and comments. A block comment that is not closed is returned as the place
where it starts. -/
def skipGap (cs : List Char) (pos : Position) : Except Position Cursor :=
  match cs with
  | '/' :: '/' :: rest =>
    let line := Cursor.skipWhile (· != '\n') rest ((pos.next '/').next '/')
    skipGap line.rest line.position
  | '/' :: '*' :: rest =>
    match _h : closeComment rest ((pos.next '/').next '*') with
    | some behind => skipGap behind.rest behind.position
    | none => .error pos
  | c :: rest => if Text.isBlank c then skipGap rest (pos.next c) else .ok ⟨c :: rest, pos⟩
  | [] => .ok ⟨[], pos⟩
termination_by cs.length
decreasing_by
  · rw [Cursor.skipWhile_eq]
    have := (List.dropWhile_suffix (l := rest) (· != '\n')).length_le
    simp only [List.length_cons]
    omega
  · have := length_closeComment _h
    simp only [List.length_cons]
    omega
  · simp

theorem length_skipGap {cs : List Char} {pos : Position} {c : Cursor}
    (h : skipGap cs pos = .ok c) : c.rest.length ≤ cs.length := by
  fun_induction skipGap cs pos with
  | case1 pos rest line ih =>
    have h1 := ih h
    have h2 : line.rest = rest.dropWhile (· != '\n') := by
      simp only [line, Cursor.skipWhile_eq]
    have h3 := (List.dropWhile_suffix (l := rest) (· != '\n')).length_le
    rw [h2] at h1
    simp only [List.length_cons]
    omega
  | case2 pos rest behind hb ih =>
    have h1 := ih h
    have h2 := length_closeComment hb
    simp only [List.length_cons]
    omega
  | case3 => simp at h
  | case4 _ _ _ _ _ _ ih =>
    have := ih h
    simp only [List.length_cons]
    omega
  | case5 => cases h; simp
  | case6 => cases h; simp

/-! ## Lexemes -/

/-- What the character behind a backslash stands for. -/
def unescape : Char → Char
  | 'n' => '\n'
  | 't' => '\t'
  | 'r' => '\r'
  | c => c

/-- Reads a literal up to its closing quote: the content, and the cursor behind the quote.
`content` holds the characters read so far, the last one first. -/
def closeLiteral (quote : Char) (content : List Char) :
    List Char → Position → Option (String × Cursor)
  | [], _ => none
  | c :: cs, pos =>
    if c = quote then some (String.ofList content.reverse, ⟨cs, pos.next c⟩)
    else if c = '\\' then
      match cs with
      | [] => none
      | e :: cs => closeLiteral quote (unescape e :: content) cs ((pos.next c).next e)
    else closeLiteral quote (c :: content) cs (pos.next c)

theorem length_closeLiteral {quote : Char} {content cs : List Char} {pos : Position}
    {s : String} {c : Cursor} (h : closeLiteral quote content cs pos = some (s, c)) :
    c.rest.length < cs.length := by
  fun_induction closeLiteral quote content cs pos with
  | case1 => simp at h
  | case2 => cases h; simp
  | case3 => simp at h
  | case4 _ _ _ _ _ ih => have := ih h; simp only [List.length_cons]; omega
  | case5 _ _ _ _ _ _ ih => have := ih h; simp only [List.length_cons]; omega

def isIdentifierStart (c : Char) : Bool :=
  Text.isAlphanumeric c || c == ':' || c == '.' || c == '_'

/-- Can the character continue an identifier? A hyphen can, but begins none. -/
def isIdentifierPart (c : Char) : Bool := isIdentifierStart c || c == '-'

def isQuote (c : Char) : Bool := c == '\x27' || c == '\x22'

/-- Reads the lexeme that starts with the character `c`, in front of `cs`. -/
def readLexeme (c : Char) (cs : List Char) (pos : Position) : Except ScanError Token × Cursor :=
  match Token.Kind.ofSymbol? c with
  | some kind => (.ok ⟨kind, some (String.singleton c), pos⟩, ⟨cs, pos.next c⟩)
  | none =>
    if isQuote c then
      match closeLiteral c [] cs (pos.next c) with
      | some (content, behind) => (.ok ⟨.string, some content, pos⟩, behind)
      | none => (.error ⟨.unterminatedLiteral c, pos⟩, .toEnd (c :: cs) pos)
    else if isIdentifierStart c then
      (.ok ⟨.identifier, some (String.ofList (c :: cs.takeWhile isIdentifierPart)), pos⟩,
        Cursor.skipWhile isIdentifierPart cs (pos.next c))
    else (.error ⟨.unexpectedCharacter c, pos⟩, ⟨c :: cs, pos⟩)

theorem length_readLexeme {c : Char} {cs : List Char} {pos : Position} {t : Token}
    {behind : Cursor} (h : readLexeme c cs pos = (.ok t, behind)) :
    behind.rest.length ≤ cs.length := by
  rw [readLexeme] at h
  split at h
  · cases h; simp
  · split at h
    · split at h
      · rename_i hc
        cases h
        have := length_closeLiteral hc
        omega
      · simp at h
    · split at h
      · rw [Cursor.skipWhile_eq] at h
        cases h
        exact (List.dropWhile_suffix _).length_le
      · simp at h

/-- Reads the next token. At the end of the text that is the token `Token.atEnd`, however
often it is asked for. -/
def next (c : Cursor) : Except ScanError Token × Cursor :=
  match skipGap c.rest c.position with
  | .error start => (.error ⟨.unterminatedComment, start⟩, .toEnd c.rest c.position)
  | .ok ⟨[], pos⟩ => (.ok (.atEnd pos), ⟨[], pos⟩)
  | .ok ⟨d :: cs, pos⟩ => readLexeme d cs pos

/-- A token other than the end takes at least one character. -/
theorem length_next {c behind : Cursor} {t : Token} (h : next c = (.ok t, behind))
    (ht : t.kind ≠ .eof) : behind.rest.length < c.rest.length := by
  rw [next] at h
  split at h
  · simp at h
  · cases h; simp [Token.atEnd] at ht
  · rename_i hg
    have h1 := length_skipGap hg
    have h2 := length_readLexeme h
    simp only [List.length_cons] at h1
    omega

end Lexer

/-! ## Whole texts -/

/-- What a text scans to: its tokens, and how the scan ended, at the end of the text or at an
error. -/
structure Scan where
  /-- The tokens in front of the end or the error. -/
  tokens : List Token
  /-- The place of the end of the text, or the error. -/
  ending : Except ScanError Position

/-- Scans from the cursor on. `before` holds the tokens read so far, the last one first. -/
def scanFrom (before : List Token) (c : Cursor) : Scan :=
  match _hn : Lexer.next c with
  | (.error e, _) => ⟨before.reverse, .error e⟩
  | (.ok t, behind) =>
    if _ht : t.kind = .eof then ⟨before.reverse, .ok t.position⟩
    else scanFrom (t :: before) behind
termination_by c.rest.length
decreasing_by exact Lexer.length_next _hn _ht

def scan (source : String) : Scan := scanFrom [] (.ofString source)

end Cnd
