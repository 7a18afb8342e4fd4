import Cnd.Text.Fold
import Cnd.Token.Queue

/-!
# Matching tokens

A pattern names a kind of token and, if wanted, the text it must have, compared exactly or
without regard to case. The operations on a queue look at the front token and take it only
if it matches, so a grammar rule can choose between alternatives before it takes anything.
The end of the stream matches no pattern.
-/

namespace Cnd

structure Token.Pattern where
  kind : Token.Kind
  data : Option String
  ignoreCase : Bool
deriving DecidableEq, Repr

namespace Token.Pattern

/-- Does the token have the kind and the text that the pattern asks for? -/
def accepts (p : Pattern) (t : Token) : Bool :=
  t.kind = p.kind &&
    match p.data, t.data with
    | none, _ => true
    | some _, none => false
    | some d, some e =>
      if p.ignoreCase then Text.casefold e = Text.casefold d else e = d

/-- How a message names what was expected. -/
def description (p : Pattern) : String := Token.describe p.kind p.data

end Token.Pattern

/-- Why a document does not follow the grammar. -/
inductive ParseError.Cause where
  | expected (pattern : Token.Pattern)
  | expectedText
  | unknownPrefix (key : String)
  | unknownPropertyType (name : String)
  /-- A list of query operators has a piece that is none. -/
  | unknownQueryOperator (piece : String)
  /-- Another cause, in the words of the rule that met it. -/
  | other (text : String) (expected : Option String)
deriving DecidableEq, Repr

/-- A syntax error and the token it was found at. -/
structure ParseError where
  cause : ParseError.Cause
  token : Token
deriving DecidableEq, Repr

namespace ParseError

/-- What is wrong, in words, without the place. -/
def text (e : ParseError) : String :=
  match e.cause with
  | .expected pattern => s!"Expected token {pattern.description}"
  | .expectedText => "Expected token [STRING] or [IDENTIFIER]"
  | .unknownPrefix key => s!"Unknown namespace prefix {Text.quoted key}"
  | .unknownPropertyType name => s!"Unknown property type {Text.quoted name}"
  | .unknownQueryOperator piece => s!"Unknown query operator {Text.quoted piece}"
  | .other text _ => text

/-- What should stand in place of the token, where that can be said. -/
def expectation (e : ParseError) : Option String :=
  match e.cause with
  | .expected pattern => some pattern.description
  | .expectedText => some "[STRING] or [IDENTIFIER]"
  | .other _ expected => expected
  | _ => none

def position (e : ParseError) : Position := e.token.position

end ParseError

namespace TokenQueue

/-- Does the front token match? Nothing is taken. -/
def check (p : Token.Pattern) : Action Bool := do
  if ← isEof then return false
  return p.accepts (← peek 0)

/-- Does the front token match one of the patterns? -/
def checkAny : List Token.Pattern → Action Bool
  | [] => pure false
  | p :: ps => do if ← check p then return true else checkAny ps

/-- Takes the front token if it matches. -/
def accept (p : Token.Pattern) : Action (Option Token) := do
  if ← check p then return some (← next) else return none

/-- The error that the front token is at fault, for the given cause. -/
def blame (cause : ParseError.Cause) : Action ParseError := do
  return ⟨cause, ← peek 0⟩

/-- Takes the front token if it matches, and names it as the culprit if not. -/
def expect (p : Token.Pattern) : Action (Except ParseError Token) := do
  if ← check p then return .ok (← next)
  return .error (← blame (.expected p))

end TokenQueue

end Cnd
