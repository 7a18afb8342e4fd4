import Cnd.Document.Basic
import Cnd.Text.Alphanumeric

/-!
# Writing documents

The canonical layout of declarations: the mappings in a block of their own, an empty line
before every node type, its options on one line and each of its items on another, indented.
A name is written bare where that reads as one identifier, and quoted otherwise; values are
always quoted.
-/

namespace Cnd.Document

/-! ## Names and values -/

def escapeChar (c : Char) : List Char :=
  if c = '\\' then ['\\', '\\']
  else if c = '\x27' then ['\\', '\x27']
  else if c = '\n' then ['\\', 'n']
  else if c = '\t' then ['\\', 't']
  else if c = '\r' then ['\\', 'r']
  else [c]

def renderQuoted (s : String) : List Char := '\x27' :: s.toList.flatMap escapeChar ++ ['\x27']

/-- Can a name be written bare? Its characters are letters, digits and a few marks, and it does not
begin with a hyphen. -/
def isPlain (name : String) : Bool :=
  match name.toList with
  | [] => false
  | c :: cs =>
    (Text.isAlphanumeric c || [':', '.', '_'].contains c)
      && (c :: cs).all fun d => Text.isAlphanumeric d || [':', '.', '_', '-'].contains d

/-- A name, quoted if it must be. -/
def renderName (name : String) : List Char :=
  if isPlain name then name.toList else renderQuoted name

/-- The name of an item; the residual name is a symbol of its own. -/
def renderItemName (name : String) : List Char :=
  if name = residualName then ['*'] else renderName name

/-- The texts with the separator between them. -/
def joinWith (sep : List Char) : List (List Char) → List Char
  | [] => []
  | [t] => t
  | t :: rest => t ++ sep ++ joinWith sep rest

def renderList (ts : List (List Char)) : List Char := joinWith [',', ' '] ts

/-! ## Phrases -/

/-- The word of a phrase, with the variant mark if it carries one. -/
def renderMarked (word : String) (variant : Bool) : List Char :=
  word.toList ++ if variant then [' ', '?'] else []

def NodeTypeOption.render : NodeTypeOption → List Char
  | orderable variant => renderMarked "orderable" variant
  | mixin variant => renderMarked "mixin" variant
  | abstract variant => renderMarked "abstract" variant
  | queryable false => "noquery".toList
  | queryable true => "query".toList
  | primaryItem (some name) => "primaryitem ".toList ++ renderName name
  | primaryItem none => "primaryitem ?".toList

def ItemAttribute.render : ItemAttribute → List Char
  | autocreated variant => renderMarked "autocreated" variant
  | mandatory variant => renderMarked "mandatory" variant
  | protectedItem variant => renderMarked "protected" variant
  | primary => "primary".toList
  | onParentVersion (some v) => v.label.toList
  | onParentVersion none => "OPV ?".toList

def PropertyAttribute.render : PropertyAttribute → List Char
  | item a => a.render
  | multiple variant => renderMarked "multiple" variant
  | queryOperators (some operators) =>
    "queryops ".toList ++ renderQuoted (", ".intercalate operators)
  | queryOperators none => "queryops ?".toList
  | noFullText variant => renderMarked "nofulltext" variant
  | noQueryOrder variant => renderMarked "noqueryorder" variant

def ChildNodeAttribute.render : ChildNodeAttribute → List Char
  | item a => a.render
  | sameNameSiblings variant => renderMarked "sns" variant

/-! ## Declarations -/

/-- A part of a line that is left out if there is nothing to list. -/
def renderPart (lead : List Char) (parts : List (List Char)) (tail : List Char) :
    List (List Char) :=
  if parts.isEmpty then [] else [lead ++ renderList parts ++ tail]

def PropertyDeclaration.render (p : PropertyDeclaration) : List Char :=
  joinWith [' '] <|
    ('-' :: ' ' :: renderItemName p.name)
      :: p.requiredType.toList.map (fun t => '(' :: t.label.toList ++ [')'])
      ++ renderPart ['=', ' '] (p.defaultValues.map renderQuoted) []
      ++ p.attributes.map PropertyAttribute.render
      ++ renderPart ['<', ' '] (p.valueConstraints.map renderQuoted) []

def ChildNodeDeclaration.render (c : ChildNodeDeclaration) : List Char :=
  joinWith [' '] <|
    ('+' :: ' ' :: renderItemName c.name)
      :: renderPart ['('] (c.requiredPrimaryTypes.map renderName) [')']
      ++ c.defaultPrimaryType.toList.map (fun t => ['=', ' '] ++ renderName t)
      ++ c.attributes.map ChildNodeAttribute.render

def ItemDeclaration.render : ItemDeclaration → List Char
  | property p => p.render
  | childNode c => c.render

def NodeTypeDeclaration.render (t : NodeTypeDeclaration) : List Char :=
  let header := joinWith [' '] <|
    ('[' :: renderName t.name ++ [']']) ::
      renderPart ['>', ' '] (t.supertypes.map renderName) []
  let options :=
    if t.options.isEmpty then [] else [joinWith [' '] (t.options.map NodeTypeOption.render)]
  let body := options ++ t.items.map ItemDeclaration.render
  joinWith ['\n'] (header :: body.map fun line => [' ', ' '] ++ line)

def renderMapping (key uri : String) : List Char :=
  '<' :: renderName key ++ [' ', '=', ' '] ++ renderQuoted uri ++ ['>']

end Cnd.Document
