import Cnd.Token.Match

/-!
# Grammar rules

A rule reads a part of a document from the tokens that are left. Tokens come one by one: a
rule that looks behind the last one meets the end of the text or the error that stopped the
scan, so a text with a lexical error fails only where the error is looked at.
-/

namespace Cnd.Document

inductive Failure where
  | scan (e : ScanError)
  | parse (e : ParseError)
deriving DecidableEq, Repr

/-- What stays the same while a declaration is read. -/
structure Context where
  ending : Except ScanError Position
  prefixes : List String

/-- Reads a value from the front of the tokens. -/
abbrev Rule (α : Type) := ReaderT Context (StateT (List Token) (Except Failure)) α

namespace Rule

/-- The token `n` places behind the front. -/
def peek (n : Nat) : Rule Token := fun context tokens =>
  match tokens[n]? with
  | some t => .ok (t, tokens)
  | none =>
    match context.ending with
    | .ok p => .ok (.atEnd p, tokens)
    | .error e => .error (.scan e)

def fail {α : Type} (cause : ParseError.Cause) (t : Token) : Rule α :=
  throw (.parse ⟨cause, t⟩)

/-- Takes the front token if `f` has a value for it. The end of the text has none. -/
def accept? {α : Type} (f : Token → Option α) : Rule (Option α) := do
  let t ← peek 0
  if t.kind = .eof then return none
  match f t with
  | none => return none
  | some a =>
    modify (·.drop 1)
    return some a

/-- Takes the front token if it is of the kind. -/
def accept (kind : Token.Kind) : Rule Bool := do
  return (← accept? fun t => if t.kind = kind then some () else none).isSome

/-- Takes the front token, which must be of the kind. -/
def expect (kind : Token.Kind) : Rule Token := do
  match ← accept? fun t => if t.kind = kind then some t else none with
  | some t => return t
  | none => fail (.expected ⟨kind, none, false⟩) (← peek 0)

/-- Takes the variant mark if it is there. -/
def variant : Rule Bool := accept .question

def text : Rule Token := do
  match ← accept? fun t => if t.kind = .string ∨ t.kind = .identifier then some t else none with
  | some t => return t
  | none => fail .expectedText (← peek 0)

/-- Applies a rule behind a symbol; none where the symbol is not there. -/
def behind {α : Type} (kind : Token.Kind) (rule : Rule α) : Rule (Option α) := do
  if ← accept kind then return some (← rule) else return none

/-- Applies a rule and then takes a symbol, which must be there. -/
def upTo {α : Type} (kind : Token.Kind) (rule : Rule α) : Rule α := do
  let a ← rule
  let _ ← expect kind
  return a

/-- Takes a symbol that stands for a value, and applies the rule where it is not there. -/
def orSymbol {α : Type} (kind : Token.Kind) (a : α) (rule : Rule α) : Rule α := do
  if ← accept kind then return a else rule

/-- Takes the variant mark, which stands for nothing, and applies the rule where it is not
there. -/
def orVariant {α : Type} (rule : Rule α) : Rule (Option α) :=
  orSymbol .question none (some <$> rule)

/-- Applies the second rule where the first one yields nothing. -/
def orElse {α : Type} (first second : Rule (Option α)) : Rule (Option α) := do
  match ← first with
  | some a => return some a
  | none => second

/-- Applies the second rule where the first one yields nothing, and must yield something. -/
def otherwise {α : Type} (first : Rule (Option α)) (second : Rule α) : Rule α := do
  match ← first with
  | some a => return a
  | none => second

/-- Reads a phrase: a front token that `f` has a value for, and what belongs behind it. -/
def phrase {κ α : Type} (f : Token → Option κ) (argument : κ → Rule α) : Rule (Option α) := do
  match ← accept? f with
  | some k => return some (← argument k)
  | none => return none

/-- Applies a rule as often as it yields something. Each time it must take a token. -/
def many {α : Type} (rule : Rule (Option α)) : Rule (List α) := fun context tokens =>
  match rule context tokens with
  | .error e => .error e
  | .ok (none, rest) => .ok ([], rest)
  | .ok (some a, rest) =>
    if _h : rest.length < tokens.length then
      match many rule context rest with
      | .error e => .error e
      | .ok (more, rest) => .ok (a :: more, rest)
    else .ok ([a], rest)
termination_by _ tokens => tokens.length

/-- Applies a rule once, and again behind every comma. -/
def commaSeparated {α : Type} (rule : Rule α) : Rule (List α) := do
  let first ← rule
  let more ← many (behind .comma rule)
  return first :: more

end Rule

end Cnd.Document
