import Cnd.Firsts
import Cnd.Graph.Cycle
import Cnd.Schema.Basic

/-!
# Checking schemas

The rules a schema must keep that no grammar can express: names are declared once, residual
definitions are neither created nor demanded, what is created by itself has a type, a single
value has one default, and no node type extends itself. A primary item that its node type
does not define is only worth a warning, as it may be inherited.
-/

namespace Cnd

inductive SchemaError where
  | repeatedNodeType (name : String)
  | repeatedProperty (nodeType name : String)
  /-- Two child nodes of a node type have the name. -/
  | repeatedChildNode (nodeType name : String)
  | autocreatedResidual (nodeType : String)
  | mandatoryResidual (nodeType : String)
  /-- A child node is to be created, but no type is given for it. -/
  | missingDefaultType (nodeType childNode : String)
  | severalDefaults (nodeType property : String) (count : Nat)
  | supertypeCycle (cycle : List String)
deriving DecidableEq, Repr

inductive SchemaWarning where
  /-- The primary item is not among the items of the node type. -/
  | foreignPrimaryItem (nodeType item : String)
deriving DecidableEq, Repr

/-- The rule that is broken, in words. -/
def SchemaError.message : SchemaError → String
  | repeatedNodeType name => s!"Node type '{name}' is declared more than once."
  | repeatedProperty nodeType name =>
    s!"Node type '{nodeType}' defines property '{name}' more than once."
  | repeatedChildNode nodeType name =>
    s!"Node type '{nodeType}' defines child node '{name}' more than once."
  | autocreatedResidual nodeType =>
    s!"Node type '{nodeType}': a residual definition cannot be autocreated."
  | mandatoryResidual nodeType =>
    s!"Node type '{nodeType}': a residual definition cannot be mandatory."
  | missingDefaultType nodeType childNode =>
    s!"Node type '{nodeType}': autocreated child node '{childNode}' " ++
      "must declare a default primary type."
  | severalDefaults nodeType property count =>
    s!"Node type '{nodeType}': single-valued property '{property}' " ++
      s!"has {count} default values."
  | supertypeCycle cycle =>
    let names := " -> ".intercalate cycle
    s!"Supertype cycle detected: {names}."

def SchemaWarning.message : SchemaWarning → String
  | foreignPrimaryItem nodeType item =>
    s!"Node type '{nodeType}': primary item '{item}' is not defined by the node type itself " ++
      "(it must be inherited)."

/-! ## Repetitions -/

/-- The members of the list that are also in front of themselves, or in `seen`. -/
def repeatsAfter (seen : List String) : List String → List String
  | [] => []
  | s :: rest => if s ∈ seen then s :: repeatsAfter seen rest else repeatsAfter (s :: seen) rest

/-- All but the first of every member of the list. -/
def repeats (l : List String) : List String := repeatsAfter [] l

/-- The members that are in the list more than once, by the place of their second one. -/
def repeated (l : List String) : List String := firsts (repeats l)

namespace NodeType

/-- The items of a node type, properties first. -/
def items (t : NodeType) : List Item :=
  t.properties.map (·.toItem) ++ t.childNodes.map (·.toItem)

/-! ## The rules for one node type -/

/-- Items of one sort have different names, unless they are residual. -/
def repeatedItems (t : NodeType) : List SchemaError :=
  let names (items : List Item) : List String :=
    repeated ((items.filter (!·.isResidual)).map (·.name))
  (names (t.properties.map (·.toItem))).map (.repeatedProperty t.name)
    ++ (names (t.childNodes.map (·.toItem))).map (.repeatedChildNode t.name)

/-- Residual definitions are neither created nor demanded. -/
def residualItems (t : NodeType) : List SchemaError :=
  (t.items.filter (·.isResidual)).flatMap fun i =>
    (if i.isAutocreated then [.autocreatedResidual t.name] else [])
      ++ if i.isMandatory then [.mandatoryResidual t.name] else []

/-- A child node that is created by itself has a default type. -/
def untypedChildNodes (t : NodeType) : List SchemaError :=
  (t.childNodes.filter fun c => c.isAutocreated && c.defaultPrimaryType.isNone).map fun c =>
    .missingDefaultType t.name c.name

/-- A property with one value has at most one default. -/
def overfullProperties (t : NodeType) : List SchemaError :=
  (t.properties.filter fun p => !p.isMultiple && 1 < p.defaultValues.length).map fun p =>
    .severalDefaults t.name p.name p.defaultValues.length

/-- The rules that a node type breaks by itself. -/
def errors (t : NodeType) : List SchemaError :=
  t.repeatedItems ++ t.residualItems ++ t.untypedChildNodes ++ t.overfullProperties

/-- The primary item is one of the items. -/
def warnings (t : NodeType) : List SchemaWarning :=
  match t.primaryItemName with
  | none => []
  | some name =>
    if name ∈ t.items.map (·.name) then [] else [.foreignPrimaryItem t.name name]

end NodeType

namespace Schema

/-! ## The rules for a whole schema -/

/-- No two node types have one name. -/
def repeatedNodeTypes (s : Schema) : List SchemaError :=
  (repeats (s.nodeTypes.map (·.name))).map .repeatedNodeType

/-- The supertypes of every name that is declared, as far as they are declared too. -/
def supertypeGraph (s : Schema) : Graph :=
  let declared := s.nodeTypes.map (·.name)
  (firsts declared).map fun name =>
    (name, (s.nodeTypes.filter (·.name = name)).flatMap fun t =>
      t.supertypes.filter (· ∈ declared))

def supertypeCycles (s : Schema) : List SchemaError :=
  (s.supertypeGraph.findCycle?.map .supertypeCycle).toList

def errors (s : Schema) : List SchemaError :=
  s.repeatedNodeTypes ++ s.nodeTypes.flatMap (·.errors) ++ s.supertypeCycles

def warnings (s : Schema) : List SchemaWarning := s.nodeTypes.flatMap (·.warnings)

def isValid (s : Schema) : Bool := s.errors.isEmpty

end Schema

end Cnd
