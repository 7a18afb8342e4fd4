import Cnd.Schema.Basic

/-!
# Documents

The declarations of a definition document as they are written: each option of a node type and
each attribute of an item is a phrase, in its place, and a phrase may carry the variant mark
`?` instead of a decision. What the phrases add up to is the business of
`Cnd.Document.Meaning`.
-/

namespace Cnd.Document

/-- A phrase in the header of a node type. -/
inductive NodeTypeOption where
  | orderable (variant : Bool)
  | mixin (variant : Bool)
  | abstract (variant : Bool)
  | queryable (value : Bool)
  /-- The item that stands for the node; none for a variant. -/
  | primaryItem (name : Option String)
deriving DecidableEq, Repr

/-- A phrase that properties and child nodes can have. -/
inductive ItemAttribute where
  | autocreated (variant : Bool)
  | mandatory (variant : Bool)
  | protectedItem (variant : Bool)
  | primary
  /-- What becomes of it when its parent is versioned; none for a variant. -/
  | onParentVersion (value : Option OnParentVersion)
deriving DecidableEq, Repr

inductive PropertyAttribute where
  | item (a : ItemAttribute)
  | multiple (variant : Bool)
  | queryOperators (operators : Option (List String))
  | noFullText (variant : Bool)
  | noQueryOrder (variant : Bool)
deriving DecidableEq, Repr

inductive ChildNodeAttribute where
  | item (a : ItemAttribute)
  | sameNameSiblings (variant : Bool)
deriving DecidableEq, Repr

structure PropertyDeclaration where
  name : String
  requiredType : Option PropertyType
  defaultValues : List String
  attributes : List PropertyAttribute
  valueConstraints : List String
deriving DecidableEq, Repr

/-- A child node as it is written. -/
structure ChildNodeDeclaration where
  name : String
  requiredPrimaryTypes : List String
  defaultPrimaryType : Option String
  attributes : List ChildNodeAttribute
deriving DecidableEq, Repr

inductive ItemDeclaration where
  | property (p : PropertyDeclaration)
  | childNode (c : ChildNodeDeclaration)
deriving DecidableEq, Repr

/-- A node type as it is written. -/
structure NodeTypeDeclaration where
  name : String
  supertypes : List String
  options : List NodeTypeOption
  items : List ItemDeclaration
deriving DecidableEq, Repr

inductive Declaration where
  | mapping (key uri : String)
  | nodeType (t : NodeTypeDeclaration)
deriving DecidableEq, Repr

end Cnd.Document
