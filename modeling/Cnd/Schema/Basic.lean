import Cnd.Namespaces

/-!
# Schemas

What a definition document defines: namespace mappings and node types, and in each node type
the properties and child nodes its nodes may or must have. The default of every attribute is
the value it has in a definition that does not mention it.
-/

namespace Cnd

/-- The type of value a property requires. -/
inductive PropertyType where
  | string
  | binary
  | long
  | double
  | boolean
  | date
  | name
  | path
  | reference
  | weakReference
  | decimal
  | uri
  | undefined
deriving DecidableEq, Repr

namespace PropertyType

/-- The types in the order in which they are listed. -/
def all : List PropertyType :=
  [string, binary, long, double, boolean, date, name, path, reference, weakReference, decimal,
    uri, undefined]

def label : PropertyType → String
  | string => "STRING"
  | binary => "BINARY"
  | long => "LONG"
  | double => "DOUBLE"
  | boolean => "BOOLEAN"
  | date => "DATE"
  | name => "NAME"
  | path => "PATH"
  | reference => "REFERENCE"
  | weakReference => "WEAKREFERENCE"
  | decimal => "DECIMAL"
  | uri => "URI"
  | undefined => "UNDEFINED"

def ofLabel? (s : String) : Option PropertyType := all.find? (·.label = s)

end PropertyType

/-- What happens to an item when its parent node is versioned. -/
inductive OnParentVersion where
  | copy
  | version
  | initialized
  | compute
  | ignore
  | abort
deriving DecidableEq, Repr

namespace OnParentVersion

/-- The values in the order in which they are listed. -/
def all : List OnParentVersion := [copy, version, initialized, compute, ignore, abort]

def label : OnParentVersion → String
  | copy => "COPY"
  | version => "VERSION"
  | initialized => "INITIALIZE"
  | compute => "COMPUTE"
  | ignore => "IGNORE"
  | abort => "ABORT"

def ofLabel? (s : String) : Option OnParentVersion := all.find? (·.label = s)

end OnParentVersion

/-- The name of a residual definition, which applies to items of any name. -/
def residualName : String := "*"

/-- The query operators a property supports unless it says otherwise. -/
def queryOperators : List String := ["=", "<>", "<", "<=", ">", ">=", "LIKE"]

/-- What properties and child nodes have in common. -/
structure Item where
  name : String
  isAutocreated : Bool := false
  isMandatory : Bool := false
  isProtected : Bool := false
  onParentVersion : OnParentVersion := .copy
deriving DecidableEq, Repr

structure Property extends Item where
  requiredType : PropertyType := .string
  defaultValues : List String := []
  valueConstraints : List String := []
  isMultiple : Bool := false
  /-- The operators by which it can be compared in a query. -/
  availableQueryOperators : List String := queryOperators
  isFullTextSearchable : Bool := true
  isQueryOrderable : Bool := true
deriving DecidableEq, Repr

structure ChildNode extends Item where
  requiredPrimaryTypes : List String := []
  /-- The primary type it has unless another one is given. -/
  defaultPrimaryType : Option String := none
  allowsSameNameSiblings : Bool := false
deriving DecidableEq, Repr

structure NodeType where
  name : String
  supertypes : List String := []
  isAbstract : Bool := false
  isMixin : Bool := false
  isOrderable : Bool := false
  isQueryable : Bool := true
  primaryItemName : Option String := none
  properties : List Property := []
  childNodes : List ChildNode := []
deriving DecidableEq, Repr

structure Schema where
  namespaces : Namespaces := .empty
  nodeTypes : List NodeType := []
deriving DecidableEq

instance : Inhabited Schema := ⟨⟨.empty, []⟩⟩

namespace Item

/-- Does the definition apply to items of any name? -/
def isResidual (i : Item) : Bool := i.name = residualName

end Item

namespace NodeType

/-- Adds a supertype behind the others, unless it is one of them. -/
def addSupertype (t : NodeType) (name : String) : NodeType :=
  if name ∈ t.supertypes then t else { t with supertypes := t.supertypes ++ [name] }

end NodeType

namespace Schema

/-- The first node type of a name. -/
def find? (s : Schema) (name : String) : Option NodeType :=
  s.nodeTypes.find? (·.name = name)

/-- The place of the first node type of a name. -/
def indexOf? (s : Schema) (name : String) : Option Nat :=
  s.nodeTypes.findIdx? (·.name = name)

/-- Do both define the same? The order of the mappings does not matter, all else does. -/
def same (s other : Schema) : Bool :=
  s.namespaces.same other.namespaces && s.nodeTypes = other.nodeTypes

end Schema

end Cnd
