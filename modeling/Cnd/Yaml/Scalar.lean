import Cnd.Decimal.Literal
import Cnd.Yaml.Fault
import Cnd.Yaml.Input

/-!
# Scalars as they are written

The text of a scalar in its several styles: in quotes, with or without escapes; as a block
behind `|` or `>`; or plain. Line ends inside a scalar fold into spaces, all but those of a
literal block.

A text is made of characters here, while an escape in YAML may also name half of a surrogate pair.
Such an escape is not read as it is meant, and `namesHalf` tells where there may be one.

Every loop takes at least one character a round, and is given the number of characters left
as fuel.
-/

namespace Cnd.Yaml.Scalar

/-- Line ends between two parts of a scalar: the first one counts as a space unless more
follow it. -/
def fold (first more : List Char) : List Char :=
  if first ≠ ['\n'] then first ++ more else if more.isEmpty then [' '] else more

/-! ## In quotes -/

/-- The characters that stand for others behind a backslash. -/
def escapes : List (Char × Char) :=
  [('0', '\x00'), ('a', '\x07'), ('b', '\x08'), ('t', '\t'), ('\t', '\t'), ('n', '\n'),
    ('v', '\x0b'), ('f', '\x0c'), ('r', '\r'), ('e', '\x1b'), (' ', ' '), ('\x22', '\x22'),
    ('\\', '\\'), ('/', '/'), ('N', '\x85'), ('_', '\xa0'), ('L', '\u2028'), ('P', '\u2029')]

/-- How many hexadecimal digits follow the character behind a backslash. -/
def escapeWidth? : Char → Option Nat
  | 'x' => some 2
  | 'u' => some 4
  | 'U' => some 8
  | _ => none

/-- Is the code point half of a surrogate pair? -/
def isHalf (n : Nat) : Bool := 0xD800 ≤ n && n < 0xE000

/-- The character of a code point. An escape may also name half of a surrogate pair, which is a
code point of its own in YAML but no character. The texts of this library are made of characters
and cannot hold it: U+FFFD is put in its place, and what holds of the text with U+FFFD need not
hold of the one that is written (`namesHalf`). -/
def charOf (n : Nat) : Except Fault Char :=
  if isHalf n then .ok '\ufffd'
  else if n < 0x110000 then .ok (Char.ofNat n)
  else if n < 0x80000000 then .error .codePoint
  else .error .hugeCodePoint

/-- The line ends at the start of lines that are otherwise blank, and the place behind the
blanks that follow. No mark between documents may come. -/
def readBreaks : Nat → List Char → Input → Except Fault (List Char × Input)
  | 0, done, i => .ok (done, i)
  | fuel + 1, done, i =>
    if i.atDocumentMark then .error .malformed
    else
      let i := i.skip isBlank
      if (i.head?.map isBreak).getD false then
        let (b, i) := i.lineBreak
        readBreaks fuel (done ++ b) i
      else .ok (done, i)

/-- The number that so many hexadecimal digits are, if the characters begin with them. -/
def hex? (width : Nat) (cs : List Char) : Option Nat :=
  let digits := cs.take width
  if digits.length = width ∧ digits.all (Decimal.isDigitIn 16) then
    some (Decimal.natOfDigits 16 digits)
  else none

/-- The number that so many hexadecimal digits are, and the place behind them. -/
def readHex (width : Nat) (i : Input) : Except Fault (Nat × Input) :=
  match hex? width i.rest with
  | some n => .ok (n, i.forward width)
  | none => .error .malformed

/-- The second half of a surrogate pair, as an escape, and the place behind it. -/
def secondHalf? (i : Input) : Option (Nat × Input) :=
  match i.rest with
  | '\\' :: c :: _ => do
    let (n, i) ← (readHex (← escapeWidth? c) (i.forward 2)).toOption
    if 0xDC00 ≤ n ∧ n < 0xE000 then some (n, i) else none
  | _ => none

/-- The character of a code point, and the place behind it. In YAML the two halves of a surrogate
pair stay two code points; here, where there are no halves, they are read as the character of the
pair (`namesHalf`). -/
def readChar (n : Nat) (i : Input) : Except Fault (Char × Input) :=
  let isFirstHalf : Bool := 0xD800 ≤ n && n < 0xDC00
  match if isFirstHalf then secondHalf? i else none with
  | some (m, i) => .ok (Char.ofNat ((n - 0xD800) * 0x400 + (m - 0xDC00) + 0x10000), i)
  | none => (charOf n).map fun c => (c, i)

/-- What an escape stands for, from behind its backslash. -/
def readEscape (i : Input) : Except Fault (List Char × Input) :=
  match i.head? with
  | none => .error .malformed
  | some c =>
    match escapes.lookup c, escapeWidth? c with
    | some d, _ => .ok ([d], i.next)
    | none, some width => do
      let (n, i) ← readHex width i.next
      let (d, i) ← readChar n i
      return ([d], i)
    | none, none =>
      if isBreak c then readBreaks i.rest.length [] i.lineBreak.2 else .error .malformed

/-- The characters up to the next space or the closing quote. `done` holds the characters
before, the last one first. -/
def readSolid (quote : Char) : Nat → List Char → Input → Except Fault (List Char × Input)
  | 0, done, i => .ok (done, i)
  | fuel + 1, done, i =>
    match i.rest with
    | [] => .ok (done, i)
    | c :: rest =>
      if isSpace c then .ok (done, i)
      else if c = quote then
        if quote = '\x27' ∧ rest.head? = some '\x27' then
          readSolid quote fuel ('\x27' :: done) (i.forward 2)
        else .ok (done, i)
      else if quote = '\x22' ∧ c = '\\' then do
        let (text, i) ← readEscape i.next
        readSolid quote fuel (text.reverse ++ done) i
      else readSolid quote fuel (c :: done) i.next

/-- The space between two parts of a quoted scalar. -/
def readSpace (i : Input) : Except Fault (List Char × Input) :=
  let (blanks, i) := i.span isBlank
  match i.head? with
  | none => .error .malformed
  | some c =>
    if isBreak c then do
      let (first, i) := i.lineBreak
      let (more, i) ← readBreaks i.rest.length [] i
      return (fold first more, i)
    else .ok (blanks, i)

/-- The parts of a quoted scalar up to its closing quote. -/
def readParts (quote : Char) : Nat → List Char → Input → Except Fault (List Char × Input)
  | 0, done, i => .ok (done, i)
  | fuel + 1, done, i => do
    let (done, i) ← readSolid quote i.rest.length done i
    if i.head? = some quote then return (done, i.next)
    let (space, i) ← readSpace i
    readParts quote fuel (space.reverse ++ done) i

/-- The text of a scalar in quotes, from its opening quote on. -/
def readQuoted (quote : Char) (i : Input) : Except Fault (String × Input) := do
  let (done, i) ← readParts quote (i.rest.length + 1) [] i.next
  return (String.ofList done.reverse, i)

/-! ## As a block -/

/-- What becomes of the line ends behind a block. -/
inductive Chomping where
  | strip
  | clip
  | keep
deriving DecidableEq, Repr

/-- The chomping that a sign in the header of a block asks for. -/
def chomping? : Option Char → Option Chomping
  | some '+' => some .keep
  | some '-' => some .strip
  | _ => none

/-- The indentation that a digit in the header of a block asks for. -/
def increment? (c : Option Char) : Except Fault (Option Nat) :=
  match c with
  | none => .ok none
  | some c =>
    if c = '0' then .error .malformed
    else if c.isDigit then .ok (some (c.toNat - '0'.toNat))
    else .ok none

/-- The sign and the digit in the header of a block, in either order. -/
def readIndicators (i : Input) : Except Fault (Chomping × Option Nat × Input) := do
  match chomping? i.head? with
  | some chomping =>
    let i := i.next
    match ← increment? i.head? with
    | some n => return (chomping, some n, i.next)
    | none => return (chomping, none, i)
  | none =>
    match ← increment? i.head? with
    | some n =>
      let i := i.next
      match chomping? i.head? with
      | some chomping => return (chomping, some n, i.next)
      | none => return (.clip, some n, i)
    | none => return (.clip, none, i)

/-- The place behind a line that may only hold a comment. -/
def skipEmptyLine (i : Input) : Except Fault Input :=
  let i := i.skipSpaces.skipComment
  if i.atLineEnd then .ok i.lineBreak.2 else .error .malformed

/-- The line ends before the first line of a block, and the widest indentation up to there. -/
def readIndentation : Nat → List Char → Nat → Input → List Char × Nat × Input
  | 0, done, widest, i => (done, widest, i)
  | fuel + 1, done, widest, i =>
    match i.head? with
    | none => (done, widest, i)
    | some c =>
      if c = ' ' then
        let i := i.next
        readIndentation fuel done (max widest i.column) i
      else if isBreak c then
        let (b, i) := i.lineBreak
        readIndentation fuel (done ++ b) widest i
      else (done, widest, i)

/-- The place behind at most the spaces that make up the indentation. -/
def skipIndentation (indent : Nat) (i : Input) : Input :=
  i.forward (min (indent - i.column) (i.rest.takeWhile (· = ' ')).length)

/-- The ends of empty lines, and the place behind the indentation of the next line. -/
def readEmptyLines (indent : Nat) : Nat → List Char → Input → List Char × Input
  | 0, done, i => (done, i)
  | fuel + 1, done, i =>
    let i := skipIndentation indent i
    if (i.head?.map isBreak).getD false then
      let (b, i) := i.lineBreak
      readEmptyLines indent fuel (done ++ b) i
    else (done, i)

/-- The lines of a block: the text up to its last line, the end of that line, and the ends of
the empty lines behind it. -/
def readLines (folded : Bool) (indent : Nat) :
    Nat → List Char → List Char → Input → List Char × List Char × List Char × Input
  | 0, text, breaks, i => (text, [], breaks, i)
  | fuel + 1, text, breaks, i =>
    let solid := !(i.head?.map isBlank).getD false
    let (line, i) := i.span (!isBreak ·)
    let text := text ++ breaks ++ line
    let (lineEnd, i) := i.lineBreak
    let (breaks, i) := readEmptyLines indent (i.rest.length + 1) [] i
    if i.column = indent ∧ ¬ i.rest.isEmpty then
      let nextSolid := !(i.head?.map isBlank).getD false
      let between :=
        if folded ∧ lineEnd = ['\n'] ∧ solid ∧ nextSolid then
          if breaks.isEmpty then [' '] else []
        else lineEnd
      readLines folded indent fuel (text ++ between) breaks i
    else (text, lineEnd, breaks, i)

/-- The text of a block, from the `|` or `>` on; `least` is the least column its lines may
start in. -/
def readBlock (folded : Bool) (least : Nat) (i : Input) : Except Fault (String × Input) := do
  let (chomping, increment, i) ← readIndicators i.next
  if !i.atLineEnd ∧ i.head? ≠ some ' ' then throw .malformed
  let i ← skipEmptyLine i
  let (breaks, indent, i) :=
    match increment with
    | none =>
      let (breaks, widest, i) := readIndentation i.rest.length [] 0 i
      (breaks, max least widest, i)
    | some n =>
      let indent := least + n - 1
      let (breaks, i) := readEmptyLines indent (i.rest.length + 1) [] i
      (breaks, indent, i)
  let (text, lineEnd, breaks, i) :=
    if i.column = indent ∧ ¬ i.rest.isEmpty then
      readLines folded indent (i.rest.length + 1) [] breaks i
    else ([], [], breaks, i)
  let tail :=
    match chomping with
    | .strip => []
    | .clip => lineEnd
    | .keep => lineEnd ++ breaks
  return (String.ofList (text ++ tail), i)

/-! ## Plain -/

/-- Does a plain scalar end in front of these characters? Inside brackets more characters
end it. -/
def endsPlain (inFlow : Bool) : List Char → Bool
  | [] => true
  | c :: rest =>
    isSpace c
      || (c = ':' && (match rest with
        | [] => true
        | d :: _ => isSpace d || (inFlow && [',', '[', ']', '\x7b', '\x7d'].contains d)))
      || (inFlow && [',', '?', '[', ']', '\x7b', '\x7d'].contains c)

/-- The characters of a plain scalar up to where it may end. -/
def readWord (inFlow : Bool) : List Char → List Char
  | [] => []
  | c :: rest => if endsPlain inFlow (c :: rest) then [] else c :: readWord inFlow rest

/-- The line ends and spaces behind the first line end in a plain scalar; none in front of a
mark between documents. -/
def readPlainBreaks : Nat → List Char → Input → Option (List Char) × Input
  | 0, done, i => (some done, i)
  | fuel + 1, done, i =>
    match i.head? with
    | none => (some done, i)
    | some c =>
      if c = ' ' then readPlainBreaks fuel done i.next
      else if isBreak c then
        let (b, i) := i.lineBreak
        if i.atDocumentMark then (none, i) else readPlainBreaks fuel (done ++ b) i
      else (some done, i)

/-- The space behind a word of a plain scalar, and whether a line ended in it. -/
def readPlainSpace (i : Input) : List Char × Bool × Input :=
  let (blanks, i) := i.span (· = ' ')
  if (i.head?.map isBreak).getD false then
    let (first, i) := i.lineBreak
    if i.atDocumentMark then ([], true, i)
    else
      match readPlainBreaks i.rest.length [] i with
      | (none, i) => ([], true, i)
      | (some more, i) => (fold first more, true, i)
  else (blanks, false, i)

/-- The words of a plain scalar. `done` is the text so far and `space` what follows it;
`lineEnded` tells whether a line ended behind the last word. -/
def readWords (inFlow : Bool) (indent : Nat) :
    Nat → List Char → List Char → Bool → Input → List Char × Bool × Input
  | 0, done, _, lineEnded, i => (done, lineEnded, i)
  | fuel + 1, done, space, lineEnded, i =>
    if i.head? = some '#' then (done, lineEnded, i)
    else
      let word := readWord inFlow i.rest
      if word.isEmpty then (done, lineEnded, i)
      else
        let done := done ++ space ++ word
        let (space, lineEnded, i) := readPlainSpace (i.forward word.length)
        if space.isEmpty ∨ i.head? = some '#' ∨ (!inFlow ∧ i.column < indent) then
          (done, lineEnded, i)
        else readWords inFlow indent fuel done space lineEnded i

/-- The text of a plain scalar, and whether it ended with a line. Outside brackets, its lines
must start at the column `indent` at least. -/
def readPlain (inFlow : Bool) (indent : Nat) (i : Input) : String × Bool × Input :=
  let (text, lineEnded, i) := readWords inFlow indent (i.rest.length + 1) [] [] false i
  (String.ofList text, lineEnded, i)

end Cnd.Yaml.Scalar
