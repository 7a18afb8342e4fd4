import Cnd.Document.Basic
import Cnd.Firsts
import Cnd.Text.Fold
import Cnd.Text.Split
import Cnd.Text.Upper
import Cnd.Token.Basic

/-!
# Keywords

The words that introduce the phrases of a document, each with its short forms, and the words
that stand for values. Keywords are identifiers compared without regard to case; types and
query operators are recognised by their upper-case form.
-/

namespace Cnd.Document

/-- Is the token an identifier that reads as one of the words? -/
def isKeyword (words : List String) (t : Token) : Bool :=
  t.kind = .identifier &&
    words.any fun w => t.data.any fun d => Text.casefold d = Text.casefold w

/-- The phrases of a node type header. -/
inductive NodeTypeKeyword where
  | orderable
  | mixin
  | abstract
  | noQuery
  | query
  | primaryItem
deriving DecidableEq, Repr

inductive ItemKeyword where
  | autocreated
  | mandatory
  | protectedItem
  | primary
  | anyVersion
  | onParentVersion (value : OnParentVersion)
deriving DecidableEq, Repr

inductive PropertyKeyword where
  | multiple
  | queryOperators
  | noFullText
  | noQueryOrder
deriving DecidableEq, Repr

inductive ChildNodeKeyword where
  | sameNameSiblings
deriving DecidableEq, Repr

/-- The value of the first entry that the token is a keyword or symbol of. -/
def lookup? {α : Type} (table : List (List String × α)) (t : Token) : Option α :=
  (table.find? fun e => isKeyword e.1 t).map (·.2)

/-- The phrase of a node type header that the token begins. -/
def NodeTypeKeyword.ofToken? (t : Token) : Option NodeTypeKeyword :=
  if t.kind = .bang then some primaryItem
  else
    lookup? [
      (["orderable", "ord", "o"], orderable),
      (["mixin", "mix", "m"], mixin),
      (["abstract", "abs", "a"], abstract),
      (["noquery", "nq"], noQuery),
      (["query", "q"], query),
      (["primaryitem"], primaryItem)] t

/-- The phrase of an item that the token begins. -/
def ItemKeyword.ofToken? (t : Token) : Option ItemKeyword :=
  if t.kind = .bang then some primary
  else
    lookup? ([
      (["autocreated", "aut", "a"], autocreated),
      (["mandatory", "man", "m"], mandatory),
      (["protected", "pro", "p"], protectedItem),
      (["primary", "pri"], primary),
      (["OPV"], anyVersion)] ++
      OnParentVersion.all.map fun v => ([v.label], onParentVersion v)) t

/-- The phrase of a property alone that the token begins. -/
def PropertyKeyword.ofToken? (t : Token) : Option PropertyKeyword :=
  if t.kind = .star then some multiple
  else
    lookup? [
      (["multiple", "mul"], multiple),
      (["queryops", "qop"], queryOperators),
      (["nofulltext", "nof"], noFullText),
      (["noqueryorder", "nqord"], noQueryOrder)] t

/-- The phrase of a child node alone that the token begins. -/
def ChildNodeKeyword.ofToken? (t : Token) : Option ChildNodeKeyword :=
  if t.kind = .star then some sameNameSiblings
  else lookup? [(["sns", "multiple"], sameNameSiblings)] t

/-- The property type that an identifier names. -/
def propertyType? (word : String) : Option PropertyType :=
  PropertyType.ofLabel? (Text.upper word)

/-- The query operators of a comma-separated list, without repetitions and empty pieces, or
the first piece that is no operator. -/
def readQueryOperators (text : String) : Except String (List String) := do
  let pieces := (Text.splitOn ',' text.toList).map fun p => String.ofList (Text.trim p)
  let operators ← (pieces.filter (!·.isEmpty)).mapM fun piece =>
    let operator := Text.upper piece
    if operator ∈ Cnd.queryOperators then .ok operator else .error piece
  return firsts operators

end Cnd.Document
