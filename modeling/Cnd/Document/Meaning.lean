import Cnd.Document.Reader

/-!
# What a document means

Every phrase changes one attribute of what it belongs to, and the phrases take effect one
after the other. A document thus denotes the schema that its declarations build up.
-/

namespace Cnd.Document

/-! ## Phrases -/

/-- The effect of an option on its node type. -/
def NodeTypeOption.apply (t : NodeType) : NodeTypeOption → NodeType
  | orderable variant => { t with isOrderable := !variant }
  | mixin variant => { t with isMixin := !variant }
  | abstract variant => { t with isAbstract := !variant }
  | queryable value => { t with isQueryable := value }
  | primaryItem (some name) => { t with primaryItemName := some name }
  | primaryItem none => t

/-- The effect of an attribute on its item. -/
def ItemAttribute.apply (i : Item) : ItemAttribute → Item
  | autocreated variant => { i with isAutocreated := !variant }
  | mandatory variant => { i with isMandatory := !variant }
  | protectedItem variant => { i with isProtected := !variant }
  | primary => i
  | onParentVersion (some v) => { i with onParentVersion := v }
  | onParentVersion none => i

/-- The effect of an attribute on its property. -/
def PropertyAttribute.apply (p : Property) : PropertyAttribute → Property
  | item a => { p with toItem := a.apply p.toItem }
  | multiple variant => { p with isMultiple := !variant }
  | queryOperators (some operators) => { p with availableQueryOperators := operators }
  | queryOperators none => p
  | noFullText variant => if variant then p else { p with isFullTextSearchable := false }
  | noQueryOrder variant => if variant then p else { p with isQueryOrderable := false }

/-- The effect of an attribute on its child node. -/
def ChildNodeAttribute.apply (c : ChildNode) : ChildNodeAttribute → ChildNode
  | item a => { c with toItem := a.apply c.toItem }
  | sameNameSiblings variant => { c with allowsSameNameSiblings := !variant }

/-! ## Items and node types -/

def PropertyDeclaration.toProperty (d : PropertyDeclaration) : Property :=
  d.attributes.foldl PropertyAttribute.apply
    { name := d.name
      requiredType := d.requiredType.getD .string
      defaultValues := d.defaultValues
      valueConstraints := d.valueConstraints }

def ChildNodeDeclaration.toChildNode (d : ChildNodeDeclaration) : ChildNode :=
  d.attributes.foldl ChildNodeAttribute.apply
    { name := d.name
      requiredPrimaryTypes := d.requiredPrimaryTypes
      defaultPrimaryType := d.defaultPrimaryType }

namespace ItemDeclaration

def name : ItemDeclaration → String
  | property p => p.name
  | childNode c => c.name

/-- Does the item stand for the whole node? -/
def isPrimary : ItemDeclaration → Bool
  | property p => p.attributes.contains (.item .primary)
  | childNode c => c.attributes.contains (.item .primary)

/-- The effect of an item on its node type. -/
def apply (t : NodeType) (i : ItemDeclaration) : NodeType :=
  let t := if i.isPrimary then { t with primaryItemName := some i.name } else t
  match i with
  | property p => { t with properties := t.properties ++ [p.toProperty] }
  | childNode c => { t with childNodes := t.childNodes ++ [c.toChildNode] }

end ItemDeclaration

def NodeTypeDeclaration.toNodeType (d : NodeTypeDeclaration) : NodeType :=
  d.items.foldl ItemDeclaration.apply
    (d.options.foldl NodeTypeOption.apply { name := d.name, supertypes := d.supertypes })

/-! ## Documents -/

/-- The effect of a declaration on the schema. -/
def Declaration.apply (s : Schema) : Declaration → Schema
  | mapping key uri => { s with namespaces := s.namespaces.insert key uri }
  | nodeType t => { s with nodeTypes := s.nodeTypes ++ [t.toNodeType] }

/-- The schema that the declarations build up. -/
def toSchema (ds : List Declaration) : Schema := ds.foldl Declaration.apply {}

/-- The schema of a document that was read to its end. -/
def Reading.schema (r : Reading) : Except Failure Schema :=
  match r.failure with
  | some e => .error e
  | none => .ok (toSchema r.declarations)

/-- The schema of a document, whose names may use the prefixes of `namespaces`. -/
def parse (namespaces : Namespaces) (source : String) : Except Failure Schema :=
  (read namespaces source).schema

end Cnd.Document
