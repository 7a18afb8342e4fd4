import Cnd.Yaml.Scalar

/-!
# YAML tokens

The tokens of a YAML document. Layout turns into tokens of its own: a block collection starts
where the indentation grows and ends where it shrinks again. A key in front of a `:` is only
known as one when the `:` comes; the lexer therefore notes where a key may have begun, and
puts the tokens for it there later. Where the text goes wrong, the tokens in front of which
a key may still begin are not certain, and are left out.
-/

namespace Cnd.Yaml

inductive Token where
  | version (major : Nat)
  /-- A `%TAG` line: a handle and what it is short for. -/
  | handle (name expansion : String)
  | directive
  | documentStart
  | documentEnd
  | blockSequenceStart
  | blockMappingStart
  | blockEnd
  | flowSequenceStart
  | flowSequenceEnd
  | flowMappingStart
  | flowMappingEnd
  | blockEntry
  | flowEntry
  | key
  | value
  | alias (name : String)
  | anchor (name : String)
  /-- The tag of the node that follows: a handle, if it has one, and the rest. -/
  | tag (handle : Option String) (suffix : String)
  /-- A scalar; only a plain one leaves its type open. -/
  | scalar (text : String) (isPlain : Bool)
deriving DecidableEq, Repr

/-- The tokens of a text, as far as they are certain. -/
structure Scan where
  tokens : List Token
  /-- What is wrong with the text behind them, if anything is. -/
  fault : Option Fault

namespace Lexer

/-- A place where a key may have begun. -/
structure PossibleKey where
  token : Nat
  required : Bool
  start : Input

structure State where
  input : Input
  tokens : Array Token
  flowDepth : Nat
  /-- The columns of the open block collections, the innermost first. -/
  columns : List Nat
  keyAllowed : Bool
  /-- The possible keys, at most one for each number of open brackets. -/
  possibleKeys : List (Nat × PossibleKey)

abbrev Step := State → Except Fault State

namespace State

def inFlow (s : State) : Bool := 0 < s.flowDepth

/-- The least column of what belongs to the innermost block collection. -/
def indent (s : State) : Nat := (s.columns.head?.map (· + 1)).getD 0

def push (s : State) (t : Token) : State := { s with tokens := s.tokens.push t }

/-- Adds a token of so many characters. -/
def take (s : State) (n : Nat) (t : Token) : State :=
  { s.push t with input := s.input.forward n }

/-- Puts a token in front of the token of an index. -/
def insert (s : State) (n : Nat) (t : Token) : State :=
  { s with tokens := s.tokens.extract 0 n ++ #[t] ++ s.tokens.extract n s.tokens.size }

/-- Opens a block collection at a column, unless one is open there or further right. -/
def openAt? (s : State) (column : Nat) : Option State :=
  if s.indent ≤ column then some { s with columns := column :: s.columns } else none

/-- Closes the block collections to the right of a column. -/
def closeTo (s : State) (column : Int) : State :=
  if s.inFlow then s
  else
    let closed := s.columns.takeWhile fun (c : Nat) => column < c
    { s with
      tokens := s.tokens ++ closed.toArray.map fun _ => Token.blockEnd
      columns := s.columns.drop closed.length }

/-- Drops the possible keys that are too far back. A key must stand on one line, within 1024
characters. -/
def dropStale (s : State) : Except Fault State :=
  let isStale (k : PossibleKey) : Bool :=
    k.start.line ≠ s.input.line || 1024 < s.input.index - k.start.index
  if s.possibleKeys.any fun e => e.2.required && isStale e.2 then .error .malformed
  else .ok { s with possibleKeys := s.possibleKeys.filter fun e => !isStale e.2 }

/-- Drops the possible key between the same brackets. -/
def dropKey (s : State) : Except Fault State :=
  match s.possibleKeys.lookup s.flowDepth with
  | some k =>
    if k.required then .error .malformed
    else .ok { s with possibleKeys := s.possibleKeys.filter (·.1 ≠ s.flowDepth) }
  | none => .ok s

/-- The tokens in front of the first one that may begin a key. -/
def certain (s : State) : List Token :=
  let n := s.possibleKeys.foldl (fun n e => min n e.2.token) s.tokens.size
  s.tokens.toList.take n

/-- Notes that a key may begin here. -/
def noteKey (s : State) : Except Fault State := do
  if !s.keyAllowed then return s
  let required := !s.inFlow && s.columns.head? == some s.input.column
  let s ← s.dropKey
  let k : PossibleKey := ⟨s.tokens.size, required, s.input⟩
  return { s with possibleKeys := (s.flowDepth, k) :: s.possibleKeys }

end State

/-! ## Between tokens -/

/-- Skips spaces, comments and line ends. Behind a line end a key may begin, unless a bracket
is open. -/
def skipToToken : Nat → State → State
  | 0, s => s
  | fuel + 1, s =>
    let i := s.input.skipSpaces.skipComment
    let behind := i.lineBreak.2
    if behind.index = i.index then { s with input := i }
    else skipToToken fuel { s with input := behind, keyAllowed := s.keyAllowed || !s.inFlow }

/-! ## Directives, anchors and tags -/

/-- May the character stand in the name of a directive, an anchor or a handle? -/
def isWordChar (c : Char) : Bool :=
  c.isDigit || ('A' ≤ c && c ≤ 'Z') || ('a' ≤ c && c ≤ 'z') || c = '-' || c = '_'

/-- Is this a space, or the end of a line? -/
def atSpaceOrEnd (i : Input) : Bool := i.atLineEnd || i.head? = some ' '

def readNumber (i : Input) : Except Fault (Nat × Input) := do
  let (ds, i) := i.span Char.isDigit
  if ds.isEmpty then throw .malformed
  return (← (Decimal.readNat ds).mapError .tooLong, i)

/-- May the character stand in a tag? -/
def isUriChar (c : Char) : Bool :=
  c.isDigit || ('A' ≤ c && c ≤ 'Z') || ('a' ≤ c && c ≤ 'z')
    || "-;/?:@&=+$,_.!~*'()[]%".toList.contains c

/-- The text of a tag, with its escapes resolved. -/
def readUri (i : Input) : Except Fault (String × Input) := do
  let (cs, i) := i.span isUriChar
  if cs.isEmpty then throw .malformed
  let bytes ← unescape cs.length cs
  match String.fromUTF8? bytes.toByteArray with
  | some s => return (s, i)
  | none => throw .malformed
where
  /-- The bytes of the text: those of each character, or the one an escape names. -/
  unescape : Nat → List Char → Except Fault (List UInt8)
    | 0, _ => .ok []
    | _, [] => .ok []
    | fuel + 1, '%' :: cs =>
      match cs with
      | a :: b :: rest =>
        if Decimal.isDigitIn 16 a ∧ Decimal.isDigitIn 16 b then do
          let more ← unescape fuel rest
          return (Decimal.natOfDigits 16 [a, b]).toUInt8 :: more
        else .error .malformed
      | _ => .error .malformed
    | fuel + 1, c :: cs => do
      let more ← unescape fuel cs
      return (String.singleton c).toUTF8.toList ++ more

/-- The handle of a tag: `!`, or a word between two of them. -/
def readHandle (i : Input) : Except Fault (String × Input) :=
  match i.rest with
  | '!' :: rest =>
    if rest.head? = some ' ' then .ok ("!", i.next)
    else
      let word := rest.takeWhile isWordChar
      if rest[word.length]? = some '!' then
        .ok (String.ofList ('!' :: word ++ ['!']), i.forward (word.length + 2))
      else .error .malformed
  | _ => .error .malformed

def readDirective (i : Input) : Except Fault (Token × Input) := do
  let (name, i) := i.next.span isWordChar
  if name.isEmpty ∨ ¬ atSpaceOrEnd i then throw .malformed
  let (token, i) ←
    if name = "YAML".toList then do
      let (major, i) ← readNumber i.skipSpaces
      if i.head? ≠ some '.' then throw .malformed
      let (_, i) ← readNumber i.next
      if ¬ atSpaceOrEnd i then throw .malformed
      pure (Token.version major, i)
    else if name = "TAG".toList then do
      let (handle, i) ← readHandle i.skipSpaces
      if i.head? ≠ some ' ' then throw .malformed
      let (expansion, i) ← readUri i.skipSpaces
      if ¬ atSpaceOrEnd i then throw .malformed
      pure (Token.handle handle expansion, i)
    else pure (Token.directive, i.skip (!isBreak ·))
  return (token, ← Scalar.skipEmptyLine i)

/-- The name behind a `&` or a `*`. -/
def readAnchor (i : Input) : Except Fault (String × Input) :=
  let (name, i) := i.next.span isWordChar
  let ends := (i.head?.map fun c => isSpace c || "?:,]\x7d%@\x60".toList.contains c).getD true
  if name.isEmpty ∨ ¬ ends then .error .malformed else .ok (String.ofList name, i)

/-- A tag: in angle brackets, a lone `!`, or with a handle. -/
def readTag (i : Input) : Except Fault (Token × Input) := do
  let (token, i) ←
    if i.rest[1]? = some '<' then do
      let (uri, i) ← readUri (i.forward 2)
      if i.head? ≠ some '>' then throw .malformed
      pure (Token.tag none uri, i.next)
    else if i.spaceAt 1 then pure (Token.tag none "!", i.next)
    else do
      let word := (i.rest.drop 1).takeWhile fun c => !(c = ' ' || isBreak c)
      let (handle, i) ← if word.contains '!' then readHandle i else pure ("!", i.next)
      let (suffix, i) ← readUri i
      pure (Token.tag (some handle) suffix, i)
  if atSpaceOrEnd i then return (token, i) else throw .malformed

/-! ## One token -/

/-- The end of a block, and a token that stands between documents. -/
def betweenDocuments (n : Nat) (t : Token) : Step := fun s => do
  let s ← (s.closeTo (-1)).dropKey
  return { s.take n t with keyAllowed := false }

/-- An opening bracket, which may begin a key. -/
def openFlow (t : Token) : Step := fun s => do
  let s ← s.noteKey
  return { s.take 1 t with flowDepth := s.flowDepth + 1, keyAllowed := true }

def closeFlow (t : Token) : Step := fun s => do
  if !s.inFlow then throw .malformed
  let s ← s.dropKey
  return { s.take 1 t with flowDepth := s.flowDepth - 1, keyAllowed := false }

def flowEntry : Step := fun s => do
  let s ← s.dropKey
  return { s.take 1 .flowEntry with keyAllowed := true }

/-- A `-` in front of an item, or a `?` in front of a key. It opens a block collection if the
indentation grows. -/
def blockMark (start mark : Token) (keyAllowed : Bool) : Step := fun s => do
  if !s.inFlow ∧ !s.keyAllowed then throw .malformed
  let s :=
    if s.inFlow then s
    else
      match s.openAt? s.input.column with
      | some s => s.push start
      | none => s
  let s ← s.dropKey
  return { s.take 1 mark with keyAllowed }

/-- The `:` behind a key that turned out to be one. -/
def valueOfKey (k : PossibleKey) (s : State) : State :=
  let s := { s with possibleKeys := s.possibleKeys.filter (·.1 ≠ s.flowDepth) }
  let s := s.insert k.token .key
  let s :=
    if s.inFlow then s
    else
      match s.openAt? k.start.column with
      | some s => s.insert k.token .blockMappingStart
      | none => s
  { s.take 1 .value with keyAllowed := false }

/-- A `:` in front of a value. -/
def value : Step := fun s =>
  match s.possibleKeys.lookup s.flowDepth with
  | some k => .ok (valueOfKey k s)
  | none => blockMark .blockMappingStart .value (!s.inFlow) s

/-- A token that may begin a key, read by `read`. -/
def readFrom (read : Input → Except Fault (Token × Input)) : Step := fun s => do
  let s ← s.noteKey
  let (t, i) ← read s.input
  return { s.push t with input := i, keyAllowed := false }

/-- A scalar in a block of its own. -/
def blockScalar (folded : Bool) : Step := fun s => do
  let s ← s.dropKey
  let (text, i) ← Scalar.readBlock folded (max 1 s.indent) s.input
  return { s.push (.scalar text false) with input := i, keyAllowed := true }

def plainScalar : Step := fun s => do
  let s ← s.noteKey
  let (text, lineEnded, i) := Scalar.readPlain s.inFlow s.indent s.input
  return { s.push (.scalar text true) with input := i, keyAllowed := lineEnded }

/-- May a plain scalar begin with the character, whatever follows? -/
def beginsPlain (c : Char) : Bool :=
  !(isSpace c || "-?:,[]\x7b\x7d#&*!|>'\x22%@\x60".toList.contains c)

/-- Reads the token that begins with the character `c`. -/
def readToken (c : Char) : Step := fun s =>
  let i := s.input
  let atLineStart : Bool := i.column = 0
  if c = '%' ∧ atLineStart then do
    let s ← (s.closeTo (-1)).dropKey
    let (t, i) ← readDirective s.input
    return { s.push t with input := i, keyAllowed := false }
  else if atLineStart ∧ i.threeOf '-' then betweenDocuments 3 .documentStart s
  else if atLineStart ∧ i.threeOf '.' then betweenDocuments 3 .documentEnd s
  else if c = '[' then openFlow .flowSequenceStart s
  else if c = '\x7b' then openFlow .flowMappingStart s
  else if c = ']' then closeFlow .flowSequenceEnd s
  else if c = '\x7d' then closeFlow .flowMappingEnd s
  else if c = ',' then flowEntry s
  else if c = '-' ∧ i.spaceAt 1 then blockMark .blockSequenceStart .blockEntry true s
  else if c = '?' ∧ (s.inFlow ∨ i.spaceAt 1) then
    blockMark .blockMappingStart .key (!s.inFlow) s
  else if c = ':' ∧ (s.inFlow ∨ i.spaceAt 1) then value s
  else if c = '*' then readFrom (fun i => (readAnchor i).map fun r => (.alias r.1, r.2)) s
  else if c = '&' then readFrom (fun i => (readAnchor i).map fun r => (.anchor r.1, r.2)) s
  else if c = '!' then readFrom readTag s
  else if c = '|' ∧ !s.inFlow then blockScalar false s
  else if c = '>' ∧ !s.inFlow then blockScalar true s
  else if c = '\x27' ∨ c = '\x22' then
    readFrom (fun i => (Scalar.readQuoted c i).map fun r => (.scalar r.1 false, r.2)) s
  else if beginsPlain c ∨ !i.spaceAt 1 ∧ (c = '-' ∨ !s.inFlow ∧ (c = '?' ∨ c = ':')) then
    plainScalar s
  else .error .malformed

/-! ## All tokens -/

/-- Reads up to the next token, and that token, which takes a character at least. None is left
at the end of the text. -/
def readNext (s : State) : Except Fault (State × Bool) := do
  let s ← (skipToToken (s.input.rest.length + 1) s).dropStale
  let s := s.closeTo s.input.column
  match s.input.head? with
  | none => return (← (s.closeTo (-1)).dropKey, false)
  | some c => return (← (← readToken c s).dropStale, true)

/-- Reads tokens up to the end of the text, or to where it goes wrong. -/
def readTokens : Nat → State → Scan
  | 0, s => ⟨s.certain, some .malformed⟩
  | fuel + 1, s =>
    match readNext s with
    | .error f => ⟨s.certain, some f⟩
    | .ok (s, true) => readTokens fuel s
    | .ok (s, false) => ⟨s.tokens.toList, none⟩

end Lexer

/-- The tokens of a text. A byte order mark at its start means nothing, and a text with a
character that must not stand in it has none. -/
def scan (source : String) : Scan :=
  if source.toList.all isAllowed then
    let start := Input.ofString source
    let input := if start.head? = some '\ufeff' then start.next else start
    Lexer.readTokens (source.length + 1) ⟨input, #[], 0, [], true, []⟩
  else ⟨[], some .malformed⟩

end Cnd.Yaml
