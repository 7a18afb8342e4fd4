/-!
# The characters of a YAML document

A place in a YAML document: the characters from there on, how many came before, and the line
and column, both counted from zero. Layout carries meaning in YAML, so all of its readers
move over such places.
-/

namespace Cnd.Yaml

def isBreak (c : Char) : Bool :=
  c = '\n' || c = '\r' || c = '\x85' || c = '\u2028' || c = '\u2029'

/-- Is the character a space or a tab? -/
def isBlank (c : Char) : Bool := c = ' ' || c = '\t'

/-- Is the character a space, a tab, or the end of a line? -/
def isSpace (c : Char) : Bool := isBlank c || isBreak c

/-- May the character stand in a document at all? -/
def isAllowed (c : Char) : Bool :=
  c = '\t' || c = '\n' || c = '\r' || c = '\x85' || (' ' ≤ c && c ≤ '~') ||
    ('\xa0' ≤ c && c ≠ '\ufffe' && c ≠ '\uffff')

structure Input where
  rest : List Char
  index : Nat
  line : Nat
  column : Nat
deriving DecidableEq, Repr

namespace Input

def ofString (s : String) : Input := ⟨s.toList, 0, 0, 0⟩

/-- The next place. A byte order mark takes no column, and a carriage return in front of a
line feed does not end the line yet. -/
def next (i : Input) : Input :=
  match i.rest with
  | [] => i
  | c :: rest =>
    if c = '\r' ∧ rest.head? = some '\n' then ⟨rest, i.index + 1, i.line, i.column + 1⟩
    else if isBreak c then ⟨rest, i.index + 1, i.line + 1, 0⟩
    else if c = '\ufeff' then ⟨rest, i.index + 1, i.line, i.column⟩
    else ⟨rest, i.index + 1, i.line, i.column + 1⟩

def forward : Nat → Input → Input
  | 0, i => i
  | n + 1, i => forward n i.next

/-- The character here, if this is not the end. -/
def head? (i : Input) : Option Char := i.rest.head?

/-- Is the character so many places on a space or the end of a line, or is there none? -/
def spaceAt (i : Input) (n : Nat) : Bool := (i.rest[n]?.map isSpace).getD true

/-- Is this the end of a line or of the document? -/
def atLineEnd (i : Input) : Bool := (i.head?.map isBreak).getD true

/-- The characters up to the first one that fails the test, and the place of that one. -/
def span (p : Char → Bool) (i : Input) : List Char × Input :=
  let taken := i.rest.takeWhile p
  (taken, i.forward taken.length)

/-- The place of the first character that fails the test. -/
def skip (p : Char → Bool) (i : Input) : Input := (i.span p).2

def skipSpaces (i : Input) : Input := i.skip (· = ' ')

/-- The end of the line, if a comment begins here. -/
def skipComment (i : Input) : Input :=
  if i.head? = some '#' then i.skip (!isBreak ·) else i

/-- The end of a line here, as it counts in a text, and the place behind it. All but the two
Unicode separators count as a line feed. -/
def lineBreak (i : Input) : List Char × Input :=
  match i.rest with
  | '\r' :: '\n' :: _ => (['\n'], i.forward 2)
  | c :: _ =>
    if c = '\u2028' ∨ c = '\u2029' then ([c], i.next)
    else if isBreak c then (['\n'], i.next)
    else ([], i)
  | [] => ([], i)

/-- Do three of the character stand here by themselves? -/
def threeOf (i : Input) (c : Char) : Bool := i.rest.take 3 = [c, c, c] && i.spaceAt 3

/-- Does a mark between documents begin here? -/
def atDocumentMark (i : Input) : Bool := i.threeOf '-' || i.threeOf '.'

end Input

end Cnd.Yaml
