import Cnd.Artifact.Basic
import Cnd.Proofs.Json.Values

/-!
# Schemas come back from artifacts

Every attribute is written under the key it is read by, in the form it is read in, so a schema
comes back from the object that stands for it (`decode_encode`), and from the text of that object
with every indent (`deserialize_serialize`).
-/

namespace Cnd.Artifact

open Decoded

/-! ## Decoding what was encoded -/

section Decoded

variable {α β : Type}

theorem map_ok {f : α → β} {d : Decoded α} {a : α} (h : d = ok a) : f <$> d = ok (f a) := by
  rw [h]
  rfl

theorem seq_ok {d : Decoded (α → β)} {e : Decoded α} {f : α → β} {a : α} (hd : d = ok f)
    (he : e = ok a) : d <*> e = ok (f a) := by
  rw [hd, he]
  rfl

theorem items_map {decode : Json → Decoded α} {encode : α → Json} {l : List α}
    (h : ∀ a ∈ l, decode (encode a) = ok a) (n : Nat) :
    items decode n (l.map encode) = ok l := by
  induction l generalizing n with
  | nil => rfl
  | cons a l ih =>
    rw [List.forall_mem_cons] at h
    rw [List.map_cons, items, h.1, ih h.2]
    rfl

theorem decodeList_map {decode : Json → Decoded α} {encode : α → Json} {l : List α}
    (h : ∀ a ∈ l, decode (encode a) = ok a) :
    decodeList decode (.array (l.map encode)) = ok l :=
  items_map h 0

theorem required_of_lookup {decode : Json → Decoded α} {fields : List (String × Json)}
    {key : String} {v : Json} {a : α} (hlookup : Json.member? key fields = some v) (h : decode v = ok a) :
    required decode fields key = ok a := by
  rw [required, hlookup]
  simp only [h, within]

theorem optional_of_lookup {decode : Json → Decoded α} {fields : List (String × Json)}
    {key : String} {v : Json} {a default : α} (hlookup : Json.member? key fields = some v)
    (h : decode v = ok a) :
    Decoded.optional decode fields key default = ok a := by
  rw [Decoded.optional, hlookup]
  simp only [h, within]

end Decoded

theorem decodeStrings_encode (l : List String) :
    decodeList decodeString (encodeStrings l) = ok l :=
  decodeList_map fun _ _ => rfl

theorem decodeOptionalString_encode (s : Option String) :
    decodeOptionalString (encodeOptional s) = ok s := by
  cases s <;> rfl

theorem decodeChoice_onParentVersion (v : OnParentVersion) :
    decodeChoice (OnParentVersion.all.map (·.label)) OnParentVersion.ofLabel? (.string v.label) =
      ok v := by
  cases v <;> rfl

theorem decodeChoice_propertyType (t : PropertyType) :
    decodeChoice (PropertyType.all.map (·.label)) PropertyType.ofLabel? (.string t.label) =
      ok t := by
  cases t <;> rfl

/-- The members of an item are found in front of those that properties or child nodes add. -/
theorem decodeItem_encode (i : Item) (rest : List (String × Json)) :
    decodeItem (encodeItem i ++ rest) = ok i := by
  obtain ⟨name, isAutocreated, isMandatory, isProtected, onParentVersion⟩ := i
  refine seq_ok (seq_ok (seq_ok (seq_ok (map_ok ?_) ?_) ?_) ?_) ?_
  · exact required_of_lookup rfl rfl
  · exact optional_of_lookup rfl rfl
  · exact optional_of_lookup rfl rfl
  · exact optional_of_lookup rfl rfl
  · exact optional_of_lookup rfl (decodeChoice_onParentVersion _)

theorem decodeProperty_encode (p : Property) : decodeProperty (encodeProperty p) = ok p := by
  obtain ⟨item, requiredType, defaultValues, valueConstraints, isMultiple, operators,
    isFullTextSearchable, isQueryOrderable⟩ := p
  refine seq_ok (seq_ok (seq_ok (seq_ok (seq_ok (seq_ok (seq_ok (map_ok ?_)
    ?_) ?_) ?_) ?_) ?_) ?_) ?_
  · exact decodeItem_encode item _
  · exact optional_of_lookup rfl (decodeChoice_propertyType _)
  · exact optional_of_lookup rfl (decodeStrings_encode _)
  · exact optional_of_lookup rfl (decodeStrings_encode _)
  · exact optional_of_lookup rfl rfl
  · exact optional_of_lookup rfl (decodeStrings_encode _)
  · exact optional_of_lookup rfl rfl
  · exact optional_of_lookup rfl rfl

theorem decodeChildNode_encode (c : ChildNode) : decodeChildNode (encodeChildNode c) = ok c := by
  obtain ⟨item, requiredPrimaryTypes, defaultPrimaryType, allowsSameNameSiblings⟩ := c
  refine seq_ok (seq_ok (seq_ok (map_ok ?_) ?_) ?_) ?_
  · exact decodeItem_encode item _
  · exact optional_of_lookup rfl (decodeStrings_encode _)
  · exact optional_of_lookup rfl (decodeOptionalString_encode _)
  · exact optional_of_lookup rfl rfl

theorem decodeNodeType_encode (t : NodeType) : decodeNodeType (encodeNodeType t) = ok t := by
  obtain ⟨name, supertypes, isAbstract, isMixin, isOrderable, isQueryable, primaryItemName,
    properties, childNodes⟩ := t
  refine seq_ok (seq_ok (seq_ok (seq_ok (seq_ok (seq_ok (seq_ok (seq_ok (map_ok ?_) ?_) ?_) ?_)
    ?_) ?_) ?_) ?_) ?_
  · exact required_of_lookup rfl rfl
  · exact optional_of_lookup rfl (decodeStrings_encode _)
  · exact optional_of_lookup rfl rfl
  · exact optional_of_lookup rfl rfl
  · exact optional_of_lookup rfl rfl
  · exact optional_of_lookup rfl rfl
  · exact optional_of_lookup rfl (decodeOptionalString_encode _)
  · exact optional_of_lookup rfl (decodeList_map fun p _ => decodeProperty_encode p)
  · exact optional_of_lookup rfl (decodeList_map fun c _ => decodeChildNode_encode c)

theorem members_strings (l : List (String × String)) :
    members decodeString (l.map fun e => (e.1, .string e.2)) = ok l := by
  induction l with
  | nil => rfl
  | cons e l ih =>
    rw [List.map_cons, members, ih]
    rfl

theorem decodeNamespaces_encode (ns : Namespaces) :
    decodeNamespaces (encodeNamespaces ns) = ok ns := by
  have h : decodeNamespaces (encodeNamespaces ns) = ok (Namespaces.ofList ns.entries) :=
    map_ok (members_strings ns.entries)
  rw [h, Namespaces.ofList_entries]

/-- A schema comes back from the object that stands for it. -/
theorem decode_encode (s : Schema) : decode (encode s) = .ok s := by
  obtain ⟨namespaces, nodeTypes⟩ := s
  have hschema : decodeSchema [("v", .string version),
      ("namespaces", encodeNamespaces namespaces),
      ("node_types", .array (nodeTypes.map encodeNodeType))] = ok ⟨namespaces, nodeTypes⟩ := by
    refine seq_ok (map_ok ?_) ?_
    · exact optional_of_lookup rfl (decodeNamespaces_encode namespaces)
    · exact optional_of_lookup rfl (decodeList_map fun t _ => decodeNodeType_encode t)
  have hversion : Json.member? "v" [("v", .string version),
      ("namespaces", encodeNamespaces namespaces),
      ("node_types", .array (nodeTypes.map encodeNodeType))] = some (.string version) := rfl
  rw [encode, decode, hversion]
  simp only [hschema, ↓reduceIte]

/-! ## Objects without numbers -/

section Plain

open Json

theorem plain_array {α : Type} {encode : α → Json} (h : ∀ a, Plain (encode a)) (l : List α) :
    Plain (.array (l.map encode)) :=
  .array fun v hv => by
    obtain ⟨a, -, rfl⟩ := List.mem_map.1 hv
    exact h a

theorem plain_strings (l : List String) : Plain (encodeStrings l) := plain_array .string l

theorem plain_optional (s : Option String) : Plain (encodeOptional s) := by
  cases s with
  | none => exact .null
  | some s => exact .string s

theorem plain_item (i : Item) : ∀ m ∈ encodeItem i, Plain m.2 := by
  simp only [encodeItem, List.forall_mem_cons]
  exact ⟨.string _, .bool _, .bool _, .bool _, .string _, List.forall_mem_nil _⟩

theorem plain_property (p : Property) : Plain (encodeProperty p) := by
  refine .object (by simp [encodeItem]) (List.forall_mem_append.2 ⟨plain_item p.toItem, ?_⟩)
  simp only [List.forall_mem_cons]
  exact ⟨.string _, plain_strings _, plain_strings _, .bool _, plain_strings _, .bool _, .bool _,
    List.forall_mem_nil _⟩

theorem plain_childNode (c : ChildNode) : Plain (encodeChildNode c) := by
  refine .object (by simp [encodeItem]) (List.forall_mem_append.2 ⟨plain_item c.toItem, ?_⟩)
  simp only [List.forall_mem_cons]
  exact ⟨plain_strings _, plain_optional _, .bool _, List.forall_mem_nil _⟩

theorem plain_nodeType (t : NodeType) : Plain (encodeNodeType t) := by
  refine .object (by simp) ?_
  simp only [List.forall_mem_cons]
  exact ⟨.string _, plain_strings _, .bool _, .bool _, .bool _, .bool _, plain_optional _,
    plain_array plain_property _, plain_array plain_childNode _, List.forall_mem_nil _⟩

/-- No prefix is mapped twice, so the mappings can be the members of an object. -/
theorem plain_namespaces (ns : Namespaces) : Plain (encodeNamespaces ns) := by
  refine .object ?_ fun m hm => ?_
  · rw [List.map_map]
    exact ns.nodup
  · obtain ⟨e, -, rfl⟩ := List.mem_map.1 hm
    exact .string e.2

theorem plain_encode (s : Schema) : Plain (encode s) := by
  refine .object (by simp) ?_
  simp only [List.forall_mem_cons]
  exact ⟨.string _, plain_namespaces _, plain_array plain_nodeType _, List.forall_mem_nil _⟩

end Plain

/-! ## Texts -/

/-- A schema comes back from the text of its artifact. -/
theorem deserialize_serialize (indent : Option Nat) (s : Schema) :
    deserialize (serialize indent s) = .ok s := by
  rw [deserialize, serialize, Json.read_render (plain_encode s)]
  exact decode_encode s

end Cnd.Artifact
