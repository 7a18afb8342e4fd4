import Cnd.Document.Keyword
import Cnd.Document.Rule

/-!
# The grammar of documents

One rule for each part of a document, from names and values up to whole declarations. A node
type has no closing mark: it ends in front of the first token that continues none of its
parts. Only a `<` behind a property needs a longer look, as it can begin the constraints of
the property or a namespace mapping; the token two places on decides.
-/

namespace Cnd.Document

open Rule

/-! ## Names and values -/

/-- The part of a name in front of its first colon, if it has one. -/
def prefixOf? (name : String) : Option String :=
  let cs := name.toList
  if cs.contains ':' then some (String.ofList (cs.takeWhile (· ≠ ':'))) else none

/-- Reads a name, whose prefix must be known. -/
def readName : Rule String := do
  let t ← text
  match prefixOf? t.text with
  | none => return t.text
  | some key =>
    if key ∈ (← read).prefixes then return t.text else fail (.unknownPrefix key) t

/-- Reads the name of an item, which may be residual. -/
def readItemName : Rule String := orSymbol .star residualName readName

/-- Reads a list of names; one that is repeated counts once. -/
def readNames : Rule (List String) := do
  return firsts (← commaSeparated readName)

/-- Reads a minus with a word directly behind it. -/
def readNegative : Rule (Option String) := do
  let sign ← peek 0
  if sign.kind = .minus then
    let word ← peek 1
    if word.kind = .identifier ∧ word.position.offset = sign.position.offset + 1 then
      modify (·.drop 2)
      return some ("-" ++ word.text)
    else return none
  else return none

/-- Reads a value: a negative number, a string or a word. -/
def readValue : Rule String := otherwise readNegative (return (← text).text)

def readValues : Rule (List String) := commaSeparated readValue

/-! ## Node type headers -/

/-- Reads an option of a node type. -/
def readNodeTypeOption : Rule (Option NodeTypeOption) :=
  phrase NodeTypeKeyword.ofToken? fun
    | .orderable => return .orderable (← variant)
    | .mixin => return .mixin (← variant)
    | .abstract => return .abstract (← variant)
    | .noQuery => return .queryable false
    | .query => return .queryable true
    | .primaryItem => return .primaryItem (← orVariant readName)

/-! ## Items -/

/-- Reads an attribute that all items can have. -/
def readItemAttribute : Rule (Option ItemAttribute) :=
  phrase ItemKeyword.ofToken? fun
    | .autocreated => return .autocreated (← variant)
    | .mandatory => return .mandatory (← variant)
    | .protectedItem => return .protectedItem (← variant)
    | .primary => return .primary
    | .anyVersion => do
      let _ ← expect .question
      return .onParentVersion none
    | .onParentVersion v => return .onParentVersion (some v)

/-- Reads the string with the operators of a property. -/
def readOperatorList : Rule (List String) := do
  let t ← expect .string
  match readQueryOperators t.text with
  | .ok operators => return operators
  | .error piece => fail (.unknownQueryOperator piece) t

/-- Reads an attribute that only properties can have. -/
def readPropertyPhrase : Rule (Option PropertyAttribute) :=
  phrase PropertyKeyword.ofToken? fun
    | .multiple => return .multiple (← variant)
    | .queryOperators => return .queryOperators (← orVariant readOperatorList)
    | .noFullText => return .noFullText (← variant)
    | .noQueryOrder => return .noQueryOrder (← variant)

def readPropertyAttribute : Rule (Option PropertyAttribute) :=
  orElse (Option.map .item <$> readItemAttribute) readPropertyPhrase

/-- Reads an attribute that only child nodes can have. -/
def readChildNodePhrase : Rule (Option ChildNodeAttribute) :=
  phrase ChildNodeKeyword.ofToken? fun
    | .sameNameSiblings => return .sameNameSiblings (← variant)

/-- Reads an attribute of a child node. -/
def readChildNodeAttribute : Rule (Option ChildNodeAttribute) :=
  orElse (Option.map .item <$> readItemAttribute) readChildNodePhrase

/-- Reads the name of a property type. -/
def readTypeName : Rule PropertyType := do
  let t ← expect .identifier
  match propertyType? t.text with
  | some type => return type
  | none => fail (.unknownPropertyType t.text) t

/-- Reads the type of a property from inside its parentheses; none for a variant. -/
def readPropertyType : Rule (Option PropertyType) :=
  orSymbol .star (some .undefined) (orVariant readTypeName)

/-- Does a namespace mapping begin here, and not a list of constraints? -/
def atMapping : Rule Bool := do
  return (← peek 2).kind = .equals

/-- Reads the constraints of a property, if it has any; none for a variant. -/
def readConstraints : Rule (Option (Option (List String))) := do
  if (← peek 0).kind = .leftAngle then
    if ← atMapping then return none else behind .leftAngle (orVariant readValues)
  else return none

/-- Reads a property from behind its `-`. -/
def readProperty : Rule PropertyDeclaration := do
  let name ← readItemName
  let requiredType ← behind .leftParen (upTo .rightParen readPropertyType)
  let defaultValues ← behind .equals (orVariant readValues)
  let attributes ← many readPropertyAttribute
  let valueConstraints ← readConstraints
  return {
    name
    requiredType := requiredType.join
    defaultValues := defaultValues.join.getD []
    attributes
    valueConstraints := valueConstraints.join.getD [] }

/-- Reads a child node from behind its `+`. -/
def readChildNode : Rule ChildNodeDeclaration := do
  let name ← readItemName
  let requiredPrimaryTypes ← behind .leftParen (upTo .rightParen (orVariant readNames))
  let defaultPrimaryType ← behind .equals (orVariant readName)
  let attributes ← many readChildNodeAttribute
  return {
    name
    requiredPrimaryTypes := requiredPrimaryTypes.join.getD []
    defaultPrimaryType := defaultPrimaryType.join
    attributes }

def readItem : Rule (Option ItemDeclaration) :=
  orElse (Option.map .property <$> behind .minus readProperty)
    (Option.map .childNode <$> behind .plus readChildNode)

/-! ## Declarations -/

def readMapping : Rule Declaration := do
  let _ ← expect .leftAngle
  let key ← text
  let _ ← expect .equals
  let uri ← text
  let _ ← expect .rightAngle
  return .mapping key.text uri.text

def readNodeType : Rule NodeTypeDeclaration := do
  let _ ← expect .leftBracket
  let name ← readName
  let _ ← expect .rightBracket
  let supertypes ← behind .rightAngle (orVariant readNames)
  let options ← many readNodeTypeOption
  let items ← many readItem
  return { name, supertypes := supertypes.join.getD [], options, items }

/-- Reads a declaration, or nothing at the end of the text. -/
def readDeclaration : Rule (Option Declaration) := do
  let t ← peek 0
  if t.kind = .eof then return none
  if t.kind = .leftAngle then return some (← readMapping)
  return some (.nodeType (← readNodeType))

end Cnd.Document
