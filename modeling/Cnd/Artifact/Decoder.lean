import Cnd.Json.Basic
import Cnd.Schema.Basic

/-!
# Schemas from JSON

Reading a schema from JSON collects every issue there is, in the order of the attributes and
of the lists they are in, before it gives up. Attributes may be missing where they have a
default, and keys that mean nothing are passed over. Texts must be strings; a truth value may
also be written as a number or a word.
-/

namespace Cnd.Artifact

inductive Step where
  | key (k : String)
  | index (i : Nat)
deriving DecidableEq, Repr

/-- What is wrong with a part of a JSON value. -/
inductive Issue.Kind where
  | missing
  | stringExpected
  | listExpected
  | mappingExpected
  | definitionExpected (name : String)
  /-- It should be a truth value, and cannot be one. -/
  | booleanExpected
  /-- It should be a truth value, and does not read as one. -/
  | booleanUnreadable
  | choiceExpected (words : List String)
deriving DecidableEq, Repr

/-- An issue and the way to the part it is about. -/
structure Issue where
  path : List Step
  kind : Issue.Kind
deriving DecidableEq, Repr

namespace Issue.Kind

/-- The short name of a kind of issue. -/
def label : Kind → String
  | missing => "missing"
  | stringExpected => "string_type"
  | listExpected => "list_type"
  | mappingExpected => "dict_type"
  | definitionExpected _ => "model_type"
  | booleanExpected => "bool_type"
  | booleanUnreadable => "bool_parsing"
  | choiceExpected _ => "enum"

/-- The words in quotes, with commas between them and `or` before the last one. -/
def choices : List String → String
  | [] => ""
  | [w] => s!"'{w}'"
  | [v, w] => s!"'{v}' or '{w}'"
  | w :: rest => s!"'{w}', {choices rest}"

def text : Kind → String
  | missing => "Field required"
  | stringExpected => "Input should be a valid string"
  | listExpected => "Input should be a valid list"
  | mappingExpected => "Input should be a valid dictionary"
  | definitionExpected name => s!"Input should be a valid dictionary or instance of {name}"
  | booleanExpected => "Input should be a valid boolean"
  | booleanUnreadable => "Input should be a valid boolean, unable to interpret input"
  | choiceExpected words => s!"Input should be {choices words}"

end Issue.Kind

/-- A value, or all the issues that stand in its way. -/
inductive Decoded (α : Type) where
  | ok (a : α)
  | bad (issues : List Issue)

namespace Decoded

/-- Applies a decoded function; the issues of both sides are kept. -/
def apply {α β : Type} : Decoded (α → β) → Decoded α → Decoded β
  | ok f, ok a => ok (f a)
  | ok _, bad e => bad e
  | bad d, ok _ => bad d
  | bad d, bad e => bad (d ++ e)

instance : Applicative Decoded where
  pure := ok
  seq f a := f.apply (a ())

def issue {α : Type} (kind : Issue.Kind) : Decoded α := bad [⟨[], kind⟩]

/-- The value of a part, with the step to it added to its issues. -/
def within {α : Type} (s : Step) : Decoded α → Decoded α
  | ok a => ok a
  | bad issues => bad (issues.map fun i => { i with path := s :: i.path })

/-- The values of the parts of a list, whose first one has the index `n`. -/
def items {α : Type} (decode : Json → Decoded α) (n : Nat) : List Json → Decoded (List α)
  | [] => ok []
  | v :: rest => List.cons <$> (decode v).within (.index n) <*> items decode (n + 1) rest

/-- The values of the members of an object. -/
def members {α : Type} (decode : Json → Decoded α) :
    List (String × Json) → Decoded (List (String × α))
  | [] => ok []
  | (k, v) :: rest =>
    (fun a l => (k, a) :: l) <$> (decode v).within (.key k) <*> members decode rest

/-- The value of an attribute that must be there. -/
def required {α : Type} (decode : Json → Decoded α) (fields : List (String × Json))
    (key : String) : Decoded α :=
  match Json.member? key fields with
  | some v => (decode v).within (.key key)
  | none => (issue .missing).within (.key key)

/-- The value of an attribute, or its default if it is missing. -/
def optional {α : Type} (decode : Json → Decoded α) (fields : List (String × Json))
    (key : String) (default : α) : Decoded α :=
  match Json.member? key fields with
  | some v => (decode v).within (.key key)
  | none => ok default

end Decoded

open Decoded

/-! ## Simple values -/

def decodeString : Json → Decoded String
  | .string s => ok s
  | _ => issue .stringExpected

def decodeOptionalString : Json → Decoded (Option String)
  | .null => ok none
  | .string s => ok (some s)
  | _ => issue .stringExpected

/-- A list of values of one sort. -/
def decodeList {α : Type} (decode : Json → Decoded α) : Json → Decoded (List α)
  | .array values => items decode 0 values
  | _ => issue .listExpected

def decodeChoice {α : Type} (words : List String) (ofLabel? : String → Option α) :
    Json → Decoded α
  | .string s => (ofLabel? s).elim (issue (.choiceExpected words)) ok
  | _ => issue (.choiceExpected words)

/-- The words that mean false, in lower case. -/
def falseWords : List String := ["0", "off", "f", "false", "n", "no"]

/-- The words that mean true, in lower case. -/
def trueWords : List String := ["1", "on", "t", "true", "y", "yes"]

def booleanOfInt (n : Int) : Decoded Bool :=
  if n = 0 then ok false
  else if n = 1 then ok true
  else if -0x8000000000000000 ≤ n ∧ n < 0x8000000000000000 then issue .booleanUnreadable
  else issue .booleanExpected

/-- The truth value of a floating-point number, which must be an integer of 64 bits. -/
def booleanOfFloat (x : Float) : Decoded Bool :=
  if x == 0 then ok false
  else if x == 1 then ok true
  else if x.floor == x && x.abs < 9223372036854775808 then issue .booleanUnreadable
  else issue .booleanExpected

/-- A truth value: itself, the numbers zero and one, or a word in any case. -/
def decodeBool : Json → Decoded Bool
  | .bool b => ok b
  | .int n => booleanOfInt n
  | .float x => booleanOfFloat x
  | .string s =>
    let word := s.toLower
    if word ∈ falseWords then ok false
    else if word ∈ trueWords then ok true
    else issue .booleanUnreadable
  | _ => issue .booleanExpected

/-! ## Definitions -/

/-- The attributes that properties and child nodes share. -/
def decodeItem (fields : List (String × Json)) : Decoded Item :=
  Item.mk <$> required decodeString fields "name"
    <*> optional decodeBool fields "is_autocreated" false
    <*> optional decodeBool fields "is_mandatory" false
    <*> optional decodeBool fields "is_protected" false
    <*> optional (decodeChoice (OnParentVersion.all.map (·.label)) OnParentVersion.ofLabel?)
      fields "on_parent_version" .copy

def decodeProperty : Json → Decoded Property
  | .object fields =>
    Property.mk <$> decodeItem fields
      <*> optional (decodeChoice (PropertyType.all.map (·.label)) PropertyType.ofLabel?)
        fields "required_type" .string
      <*> optional (decodeList decodeString) fields "default_values" []
      <*> optional (decodeList decodeString) fields "value_constraints" []
      <*> optional decodeBool fields "is_multiple" false
      <*> optional (decodeList decodeString) fields "available_query_operators" queryOperators
      <*> optional decodeBool fields "is_full_text_searchable" true
      <*> optional decodeBool fields "is_query_orderable" true
  | _ => issue (.definitionExpected "PropertyDef")

def decodeChildNode : Json → Decoded ChildNode
  | .object fields =>
    ChildNode.mk <$> decodeItem fields
      <*> optional (decodeList decodeString) fields "required_primary_types" []
      <*> optional decodeOptionalString fields "default_primary_type" none
      <*> optional decodeBool fields "allows_same_name_siblings" false
  | _ => issue (.definitionExpected "ChildNodeDef")

def decodeNodeType : Json → Decoded NodeType
  | .object fields =>
    NodeType.mk <$> required decodeString fields "name"
      <*> optional (decodeList decodeString) fields "supertypes" []
      <*> optional decodeBool fields "is_abstract" false
      <*> optional decodeBool fields "is_mixin" false
      <*> optional decodeBool fields "is_orderable" false
      <*> optional decodeBool fields "is_queryable" true
      <*> optional decodeOptionalString fields "primary_item_name" none
      <*> optional (decodeList decodeProperty) fields "properties" []
      <*> optional (decodeList decodeChildNode) fields "child_nodes" []
  | _ => issue (.definitionExpected "NodeTypeDef")

/-- Mappings, from an object of prefixes and URIs. -/
def decodeNamespaces : Json → Decoded Namespaces
  | .object entries => Namespaces.ofList <$> members decodeString entries
  | _ => issue .mappingExpected

/-- A schema, from the members of its object. -/
def decodeSchema (fields : List (String × Json)) : Decoded Schema :=
  Schema.mk <$> optional decodeNamespaces fields "namespaces" .empty
    <*> optional (decodeList decodeNodeType) fields "node_types" []

end Cnd.Artifact
