import Cnd.Position
import Cnd.Text.Quoted

/-!
# Tokens

The lexical tokens of a definition document: thirteen one-character symbols, quoted strings,
identifiers, and the end of the text. Keywords are identifiers; the grammar tells them apart.
-/

namespace Cnd

inductive Token.Kind where
  | leftAngle
  | rightAngle
  | leftBracket
  | rightBracket
  | leftParen
  | rightParen
  | equals
  | comma
  | minus
  | plus
  | star
  | question
  | bang
  | string
  | identifier
  | eof
deriving DecidableEq, Repr, Inhabited

/-- A token and the place where it starts. -/
structure Token where
  kind : Token.Kind
  /-- The text of an identifier, the content of a string, the character of a symbol; none at
  the end of the text. -/
  data : Option String
  position : Position
deriving DecidableEq, Repr, Inhabited

namespace Token

namespace Kind

/-- The name of a kind in messages. -/
def label : Kind → String
  | leftAngle => "LANGLE"
  | rightAngle => "RANGLE"
  | leftBracket => "LBRACKET"
  | rightBracket => "RBRACKET"
  | leftParen => "LPAREN"
  | rightParen => "RPAREN"
  | equals => "EQUALS"
  | comma => "COMMA"
  | minus => "MINUS"
  | plus => "PLUS"
  | star => "STAR"
  | question => "QUESTION"
  | bang => "BANG"
  | string => "STRING"
  | identifier => "IDENTIFIER"
  | eof => "EOF"

/-- The kind of token a symbol character stands for. -/
def ofSymbol? : Char → Option Kind
  | '<' => some leftAngle
  | '>' => some rightAngle
  | '[' => some leftBracket
  | ']' => some rightBracket
  | '(' => some leftParen
  | ')' => some rightParen
  | '=' => some equals
  | ',' => some comma
  | '-' => some minus
  | '+' => some plus
  | '*' => some star
  | '?' => some question
  | '!' => some bang
  | _ => none

end Kind

/-- The token at the end of a text. -/
def atEnd (p : Position) : Token := ⟨.eof, none, p⟩

/-- How a message names a kind of token, with the text it should have or has. -/
def describe (kind : Kind) (data : Option String) : String :=
  match data with
  | none => s!"[{kind.label}]"
  | some d => s!"[{kind.label}, {Text.quoted d}]"

def description (t : Token) : String := describe t.kind t.data

/-- The text of the token, empty where it has none. -/
def text (t : Token) : String := t.data.getD ""

end Token

end Cnd
