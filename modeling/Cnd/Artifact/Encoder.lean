import Cnd.Json.Basic
import Cnd.Schema.Basic

/-!
# Schemas as JSON

The JSON object that stands for a schema in an artifact: every attribute under its own key,
whether it has its default value or not, in a fixed order.
-/

namespace Cnd.Artifact

def encodeStrings (l : List String) : Json := .array (l.map .string)

def encodeOptional : Option String → Json
  | none => .null
  | some s => .string s

/-- The members that properties and child nodes share. -/
def encodeItem (i : Item) : List (String × Json) :=
  [("name", .string i.name),
    ("is_autocreated", .bool i.isAutocreated),
    ("is_mandatory", .bool i.isMandatory),
    ("is_protected", .bool i.isProtected),
    ("on_parent_version", .string i.onParentVersion.label)]

def encodeProperty (p : Property) : Json :=
  .object (encodeItem p.toItem ++
    [("required_type", .string p.requiredType.label),
      ("default_values", encodeStrings p.defaultValues),
      ("value_constraints", encodeStrings p.valueConstraints),
      ("is_multiple", .bool p.isMultiple),
      ("available_query_operators", encodeStrings p.availableQueryOperators),
      ("is_full_text_searchable", .bool p.isFullTextSearchable),
      ("is_query_orderable", .bool p.isQueryOrderable)])

def encodeChildNode (c : ChildNode) : Json :=
  .object (encodeItem c.toItem ++
    [("required_primary_types", encodeStrings c.requiredPrimaryTypes),
      ("default_primary_type", encodeOptional c.defaultPrimaryType),
      ("allows_same_name_siblings", .bool c.allowsSameNameSiblings)])

def encodeNodeType (t : NodeType) : Json :=
  .object
    [("name", .string t.name),
      ("supertypes", encodeStrings t.supertypes),
      ("is_abstract", .bool t.isAbstract),
      ("is_mixin", .bool t.isMixin),
      ("is_orderable", .bool t.isOrderable),
      ("is_queryable", .bool t.isQueryable),
      ("primary_item_name", encodeOptional t.primaryItemName),
      ("properties", .array (t.properties.map encodeProperty)),
      ("child_nodes", .array (t.childNodes.map encodeChildNode))]

/-- The mappings, as an object from prefixes to URIs. -/
def encodeNamespaces (ns : Namespaces) : Json :=
  .object (ns.entries.map fun e => (e.1, .string e.2))

end Cnd.Artifact
