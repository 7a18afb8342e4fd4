import Cnd.Document.Printer

/-!
# The canonical document of a schema

A schema is written as the declarations that define it with the fewest phrases: an attribute
with its default value is not mentioned. Properties come before child nodes, and the primary
item is named in the header of its node type.
-/

namespace Cnd

open Cnd.Document

/-- A phrase that is there only under a condition. -/
def phraseIf {α : Type} (condition : Bool) (phrase : α) : List α :=
  if condition then [phrase] else []

namespace Item

/-- The attributes of an item that differ from their defaults. -/
def attributes (i : Item) : List ItemAttribute :=
  phraseIf i.isMandatory (.mandatory false)
    ++ phraseIf i.isAutocreated (.autocreated false)
    ++ phraseIf i.isProtected (.protectedItem false)
    ++ phraseIf (i.onParentVersion ≠ .copy) (.onParentVersion (some i.onParentVersion))

end Item

namespace Property

def toDeclaration (p : Property) : PropertyDeclaration where
  name := p.name
  requiredType := some p.requiredType
  defaultValues := p.defaultValues
  attributes :=
    p.toItem.attributes.map .item
      ++ phraseIf p.isMultiple (.multiple false)
      ++ phraseIf (p.availableQueryOperators ≠ queryOperators)
        (.queryOperators (some p.availableQueryOperators))
      ++ phraseIf (!p.isFullTextSearchable) (.noFullText false)
      ++ phraseIf (!p.isQueryOrderable) (.noQueryOrder false)
  valueConstraints := p.valueConstraints

end Property

namespace ChildNode

def toDeclaration (c : ChildNode) : ChildNodeDeclaration where
  name := c.name
  requiredPrimaryTypes := c.requiredPrimaryTypes
  defaultPrimaryType := c.defaultPrimaryType
  attributes :=
    c.toItem.attributes.map .item
      ++ phraseIf c.allowsSameNameSiblings (.sameNameSiblings false)

end ChildNode

namespace NodeType

/-- The options of a node type that differ from their defaults. -/
def options (t : NodeType) : List NodeTypeOption :=
  phraseIf t.isOrderable (.orderable false)
    ++ phraseIf t.isMixin (.mixin false)
    ++ phraseIf t.isAbstract (.abstract false)
    ++ phraseIf (!t.isQueryable) (.queryable false)
    ++ t.primaryItemName.toList.map fun name => .primaryItem (some name)

def toDeclaration (t : NodeType) : NodeTypeDeclaration where
  name := t.name
  supertypes := t.supertypes
  options := t.options
  items :=
    t.properties.map (fun p => .property p.toDeclaration)
      ++ t.childNodes.map fun c => .childNode c.toDeclaration

end NodeType

namespace Schema

/-- The blocks of the canonical text: all mappings, then one for each node type. -/
def blocks (s : Schema) : List (List Char) :=
  let mappings := s.namespaces.entries.map fun e => renderMapping e.1 e.2
  (if mappings.isEmpty then [] else [joinWith ['\n'] mappings])
    ++ s.nodeTypes.map fun t => t.toDeclaration.render

def render (s : Schema) : String :=
  match s.blocks with
  | [] => ""
  | blocks => String.ofList (joinWith ['\n', '\n'] blocks ++ ['\n'])

end Schema

end Cnd
