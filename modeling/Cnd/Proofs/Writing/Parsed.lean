import Cnd.Proofs.Writing.Document

/-!
# Schemas that were parsed

A schema that was parsed is written faithfully: its names have prefixes that are known to its own
text, its lists of names were read without repetitions, and its lists of operators are such as
come back unchanged. These are invariants of the phrases, items and declarations that build the
schema up (`NodeType.Sound`), so the text of a parsed schema is parsed as the same schema
(`parse_render_of_parse`).
-/

namespace Cnd

open Cnd.Document

variable {known known' : List String}

/-! ## The invariants -/

/-- Are the names known and is the list of operators canonical? -/
structure Property.Sound (known : List String) (p : Property) : Prop where
  name : (Condition.name p.name).Holds known
  operators : CanonicalOperators p.availableQueryOperators

/-- Are the names known and those of the required types different? -/
structure ChildNode.Sound (known : List String) (c : ChildNode) : Prop where
  name : (Condition.name c.name).Holds known
  types : ∀ name ∈ c.requiredPrimaryTypes, (Condition.name name).Holds known
  /-- The name of the default type has a known prefix. -/
  default : ∀ name ∈ c.defaultPrimaryType, (Condition.name name).Holds known
  nodup : c.requiredPrimaryTypes.Nodup

/-- Does the node type come back from its text as it is, where the prefixes `known` may be
used? -/
structure NodeType.Sound (known : List String) (t : NodeType) : Prop where
  name : (Condition.name t.name).Holds known
  supertypes : ∀ name ∈ t.supertypes, (Condition.name name).Holds known
  /-- The name of the primary item has a known prefix. -/
  primary : ∀ name ∈ t.primaryItemName, (Condition.name name).Holds known
  nodup : t.supertypes.Nodup
  properties : ∀ p ∈ t.properties, p.Sound known
  childNodes : ∀ c ∈ t.childNodes, c.Sound known

theorem Property.Sound.mono {p : Property} (h : p.Sound known) (hsub : known ⊆ known') :
    p.Sound known' :=
  ⟨h.name.mono hsub, h.operators⟩

theorem ChildNode.Sound.mono {c : ChildNode} (h : c.Sound known) (hsub : known ⊆ known') :
    c.Sound known' where
  name := h.name.mono hsub
  types name hname := (h.types name hname).mono hsub
  default name hname := (h.default name hname).mono hsub
  nodup := h.nodup

/-- Where more prefixes are known, a node type stays sound. -/
theorem NodeType.Sound.mono {t : NodeType} (h : t.Sound known) (hsub : known ⊆ known') :
    t.Sound known' where
  name := h.name.mono hsub
  supertypes name hname := (h.supertypes name hname).mono hsub
  primary name hname := (h.primary name hname).mono hsub
  nodup := h.nodup
  properties p hp := (h.properties p hp).mono hsub
  childNodes c hc := (h.childNodes c hc).mono hsub

theorem NodeType.Sound.readable {t : NodeType} (h : t.Sound known) : t.Readable known := by
  refine ⟨?_, fun p hp _ => (h.properties p hp).operators.holds⟩
  simp only [NodeType.names, List.forall_mem_append, List.forall_mem_cons, List.forall_mem_map,
    List.forall_mem_flatMap, Option.mem_toList]
  exact ⟨⟨⟨⟨h.name, h.supertypes⟩, h.primary⟩, fun p hp => (h.properties p hp).name⟩,
    fun c hc => ⟨⟨(h.childNodes c hc).name, (h.childNodes c hc).types⟩,
      (h.childNodes c hc).default⟩⟩

theorem NodeType.Sound.canonical {t : NodeType} (h : t.Sound known) : t.Canonical :=
  ⟨h.nodup, fun c hc => (h.childNodes c hc).nodup, fun p hp => (h.properties p hp).operators⟩

/-! ## Names -/

theorem holds_name {n : Tree.Name} (h : Met known n) :
    (Condition.name (Tree.name n)).Holds known :=
  met_name.1 h

theorem holds_itemName {n : Tree.ItemName} (h : Met known n) :
    (Condition.name (Tree.itemName n)).Holds known := by
  rcases n with t | n
  · exact holds_residualName
  · exact holds_name h

/-- A list of names that is read has known names, and none twice. -/
theorem sound_names {l : Tree.CommaList Tree.Name} (h : Met known l) :
    (Tree.names l).Nodup ∧ ∀ name ∈ Tree.names l, (Condition.name name).Holds known := by
  refine ⟨nodup_firsts _, fun name hname => ?_⟩
  obtain ⟨hfirst, hmore⟩ := (met_prod l).1 h
  rw [Tree.names, mem_firsts, Tree.members, List.map_cons, List.map_map, List.mem_cons] at hname
  rcases hname with rfl | hname
  · exact holds_name hfirst
  · obtain ⟨x, hx, rfl⟩ := List.mem_map.1 hname
    exact holds_name ((met_prod x).1 (met_list.1 hmore x hx)).2

theorem sound_orVariant {x : Tree.OrVariant (Tree.CommaList Tree.Name)} (h : Met known x) :
    ((Tree.orVariant Tree.names x).getD []).Nodup ∧
      ∀ name ∈ (Tree.orVariant Tree.names x).getD [], (Condition.name name).Holds known := by
  rcases x with t | l
  · exact ⟨List.nodup_nil, List.forall_mem_nil _⟩
  · exact sound_names h

/-! ## Items -/

theorem ItemAttribute.name_apply (i : Item) (a : ItemAttribute) : (a.apply i).name = i.name := by
  cases a with
  | onParentVersion value => cases value <;> rfl
  | _ => rfl

/-- An attribute keeps a property sound if its operators, if it has any, are canonical. -/
theorem Property.Sound.apply {p : Property} {a : PropertyAttribute} (h : p.Sound known)
    (ha : ∀ operators, a = .queryOperators (some operators) → CanonicalOperators operators) :
    (a.apply p).Sound known := by
  cases a with
  | item a =>
    refine ⟨?_, h.operators⟩
    rw [PropertyAttribute.apply, ItemAttribute.name_apply]
    exact h.name
  | queryOperators operators =>
    cases operators with
    | none => exact h
    | some operators => exact ⟨h.name, ha operators rfl⟩
  | multiple variant => exact ⟨h.name, h.operators⟩
  | noFullText variant => cases variant <;> exact ⟨h.name, h.operators⟩
  | noQueryOrder variant => cases variant <;> exact ⟨h.name, h.operators⟩

theorem canonical_of_propertyAttribute {x : Tree.PropertyAttribute} (h : Met known x)
    {operators : List String}
    (hx : Tree.propertyAttribute x = .queryOperators (some operators)) :
    CanonicalOperators operators := by
  rcases x with a | ⟨_ | _, l, argument⟩
  case inr.queryOperators =>
    rcases argument with t | o
    · cases hx
    · have ho : Met known o := h
      cases hx
      exact canonicalOperators_operatorsOf (met_operatorList.1 ho)
  all_goals cases hx

theorem sound_property {x : Tree.Property} (h : Met known x) :
    (Tree.property x).toProperty.Sound known := by
  obtain ⟨n, type, defaults, attributes, constraints⟩ := x
  simp only [met_prod] at h
  obtain ⟨hname, -, -, hattributes, -⟩ := h
  -- It begins with the default operators, and every attribute keeps it sound.
  refine List.foldlRecOn _ _ ⟨holds_itemName hname, canonicalOperators_queryOperators⟩ ?_
  intro p hp a ha
  obtain ⟨y, hy, rfl⟩ := List.mem_map.1 ha
  exact hp.apply fun operators => canonical_of_propertyAttribute (met_list.1 hattributes y hy)

theorem ChildNode.Sound.apply {c : ChildNode} (h : c.Sound known) (a : ChildNodeAttribute) :
    (a.apply c).Sound known := by
  cases a with
  | item a =>
    refine ⟨?_, h.types, h.default, h.nodup⟩
    rw [ChildNodeAttribute.apply, ItemAttribute.name_apply]
    exact h.name
  | sameNameSiblings variant => exact ⟨h.name, h.types, h.default, h.nodup⟩

theorem sound_childNode {x : Tree.ChildNode} (h : Met known x) :
    (Tree.childNode x).toChildNode.Sound known := by
  obtain ⟨n, types, default, attributes⟩ := x
  simp only [met_prod] at h
  obtain ⟨hname, htypes, hdefault, -⟩ := h
  have hsound : ((types.bind fun t => Tree.orVariant Tree.names t.2.1).getD []).Nodup ∧
      ∀ name ∈ (types.bind fun t => Tree.orVariant Tree.names t.2.1).getD [],
        (Condition.name name).Holds known := by
    rcases types with _ | ⟨left, l, right⟩
    · exact ⟨List.nodup_nil, List.forall_mem_nil _⟩
    · exact sound_orVariant (by simpa using htypes)
  refine List.foldlRecOn _ _ ?_ fun c hc a _ => hc.apply a
  refine ⟨holds_itemName hname, hsound.2, ?_, hsound.1⟩
  intro name hmem
  rcases default with _ | ⟨equals, t | n⟩
  · cases hmem
  · cases hmem
  · cases hmem
    exact holds_name (by simpa using hdefault)

/-! ## Node types -/

theorem NodeType.Sound.header {name : String} {supertypes : List String}
    (hname : (Condition.name name).Holds known) (hnodup : supertypes.Nodup)
    (hsupertypes : ∀ name ∈ supertypes, (Condition.name name).Holds known) :
    { name, supertypes : NodeType }.Sound known where
  name := hname
  supertypes := hsupertypes
  primary := nofun
  nodup := hnodup
  properties := List.forall_mem_nil _
  childNodes := List.forall_mem_nil _

theorem NodeType.Sound.withPrimary {t : NodeType} (h : t.Sound known) {name : String}
    (hname : (Condition.name name).Holds known) :
    { t with primaryItemName := some name : NodeType }.Sound known :=
  { h with
    primary := by
      intro other hother
      cases hother
      exact hname }

/-- An option keeps a node type sound if the name of its primary item, if it has one, is
known. -/
theorem NodeType.Sound.apply {t : NodeType} {o : NodeTypeOption} (h : t.Sound known)
    (ho : ∀ name, o = .primaryItem (some name) → (Condition.name name).Holds known) :
    (o.apply t).Sound known := by
  have hsame : ∀ isOrderable isMixin isAbstract isQueryable : Bool,
      { t with isOrderable, isMixin, isAbstract, isQueryable : NodeType }.Sound known :=
    fun _ _ _ _ => ⟨h.name, h.supertypes, h.primary, h.nodup, h.properties, h.childNodes⟩
  cases o with
  | primaryItem name =>
    cases name with
    | none => exact h
    | some name => exact h.withPrimary (ho name rfl)
  | _ => apply hsame

theorem holds_primaryItem {x : Tree.NodeTypeOption} (h : Met known x) {name : String}
    (hx : Tree.nodeTypeOption x = .primaryItem (some name)) :
    (Condition.name name).Holds known := by
  rcases x with ⟨_ | _, l, argument⟩
  case primaryItem =>
    rcases argument with t | n
    · cases hx
    · have hn : Met known n := h
      cases hx
      exact holds_name hn
  all_goals cases hx

/-- An item keeps its node type sound, also if it is the primary item. -/
theorem NodeType.Sound.apply_item {t : NodeType} (ht : t.Sound known) {x : Tree.Item}
    (h : Met known x) : ((Tree.item x).apply t).Sound known := by
  have hname : (Condition.name (Tree.item x).name).Holds known := by
    rcases x with ⟨minus, n, p⟩ | ⟨plus, n, c⟩
    · exact holds_itemName ((met_prod _).1 ((met_prod _).1 h).2).1
    · exact holds_itemName ((met_prod _).1 ((met_prod _).1 h).2).1
  have hprimary : (if (Tree.item x).isPrimary then
      { t with primaryItemName := some (Tree.item x).name : NodeType } else t).Sound known := by
    split
    · exact ht.withPrimary hname
    · exact ht
  rcases x with ⟨minus, p⟩ | ⟨plus, c⟩
  · exact { hprimary with
      properties := List.forall_mem_append.2 ⟨hprimary.properties,
        List.forall_mem_singleton.2 (sound_property ((met_prod _).1 h).2)⟩ }
  · exact { hprimary with
      childNodes := List.forall_mem_append.2 ⟨hprimary.childNodes,
        List.forall_mem_singleton.2 (sound_childNode ((met_prod _).1 h).2)⟩ }

/-- A node type that is read is sound: its options and its items keep it so. -/
theorem sound_nodeType {x : Tree.NodeType} (h : Met known x) :
    (Tree.nodeType x).toNodeType.Sound known := by
  obtain ⟨left, n, right, supertypes, options, items⟩ := x
  simp only [met_prod] at h
  obtain ⟨-, hname, -, hsupertypes, hoptions, hitems⟩ := h
  have hsound : ((supertypes.bind fun t => Tree.orVariant Tree.names t.2).getD []).Nodup ∧
      ∀ name ∈ (supertypes.bind fun t => Tree.orVariant Tree.names t.2).getD [],
        (Condition.name name).Holds known := by
    rcases supertypes with _ | ⟨angle, l⟩
    · exact ⟨List.nodup_nil, List.forall_mem_nil _⟩
    · exact sound_orVariant (by simpa using hsupertypes)
  refine List.foldlRecOn _ _ (List.foldlRecOn _ _ ?_ ?_) ?_
  · exact .header (holds_name hname) hsound.1 hsound.2
  · intro t ht o ho
    obtain ⟨y, hy, rfl⟩ := List.mem_map.1 ho
    exact ht.apply fun name => holds_primaryItem (met_list.1 hoptions y hy)
  · intro t ht i hi
    obtain ⟨y, hy, rfl⟩ := List.mem_map.1 hi
    exact ht.apply_item (met_list.1 hitems y hy)

/-! ## Schemas -/

/-- The prefixes that may be used at a point are those of the mappings that came before it. -/
theorem knownBehind_subset {s : Schema} {base : List String} (d : Declaration)
    (h : known ⊆ base ++ s.namespaces.keys) :
    knownBehind known d ⊆ base ++ (d.apply s).namespaces.keys := by
  cases d with
  | mapping key uri =>
    intro name hname
    rw [Declaration.apply, List.mem_append, Namespaces.mem_keys_insert]
    rcases List.mem_cons.1 hname with rfl | hmem
    · exact .inr (.inl rfl)
    · exact (List.mem_append.1 (h hmem)).imp_right .inr
  | nodeType t => exact h

/-- A declaration keeps the node types of a schema sound: a mapping makes a prefix known, and a
node type that is added is sound where it stands. -/
theorem sound_apply {s : Schema} {base : List String} {x : Tree.Declaration}
    (hknown : known ⊆ base ++ s.namespaces.keys)
    (hs : ∀ t ∈ s.nodeTypes, t.Sound (base ++ s.namespaces.keys)) (h : Met known x) :
    ∀ t ∈ ((Tree.declaration x).apply s).nodeTypes,
      t.Sound (base ++ ((Tree.declaration x).apply s).namespaces.keys) := by
  rcases x with ⟨left, key, equals, uri, right⟩ | x
  · intro t ht
    refine (hs t ht).mono fun name hname => ?_
    rw [Tree.declaration, Declaration.apply, List.mem_append, Namespaces.mem_keys_insert]
    exact (List.mem_append.1 hname).imp_right .inr
  · have hx : (Tree.nodeType x).toNodeType.Sound known := sound_nodeType ((met_inr x).1 h)
    exact List.forall_mem_append.2 ⟨hs, List.forall_mem_singleton.2 (hx.mono hknown)⟩

/-- Declarations whose conditions are met where they stand keep the node types sound. -/
theorem sound_foldl {s : Schema} {base : List String} {ds : List Tree.Declaration}
    (hknown : known ⊆ base ++ s.namespaces.keys)
    (hs : ∀ t ∈ s.nodeTypes, t.Sound (base ++ s.namespaces.keys))
    (h : Tree.Scoped known ds) :
    ∀ t ∈ ((ds.map Tree.declaration).foldl Declaration.apply s).nodeTypes,
      t.Sound (base ++ ((ds.map Tree.declaration).foldl Declaration.apply s).namespaces.keys) := by
  -- The invariant on the known prefixes goes along: they are mapped by the schema so far.
  induction ds generalizing s known with
  | nil => exact hs
  | cons d ds ih =>
    exact ih (knownBehind_subset (Tree.declaration d) hknown) (sound_apply hknown hs h.1) h.2

/-- The node types of a schema that was parsed are sound for the prefixes it maps itself. -/
theorem sound_of_parse {namespaces : Namespaces} {source : String} {s : Schema}
    (h : parse namespaces source = .ok s) :
    ∀ t ∈ s.nodeTypes, t.Sound (prefixesOf namespaces ++ s.namespaces.keys) := by
  obtain ⟨-, ds, -, hscoped, rfl⟩ := derivation_of_parse h
  exact sound_foldl (List.subset_append_left _ _) (List.forall_mem_nil _) hscoped

/-- The text of a parsed schema is parsed as that schema. -/
theorem parse_render_self {namespaces : Namespaces} {source : String} {s : Schema}
    (h : parse namespaces source = .ok s) : parse namespaces s.render = .ok s := by
  have hsound := sound_of_parse h
  have hreadable : s.Readable namespaces := fun t ht => (hsound t ht).readable
  have hcanonical : s.Canonical := fun t ht => (hsound t ht).canonical
  rcases s.parse_render_cases namespaces with ⟨-, hok⟩ | ⟨hnot, -⟩
  · rw [hok, (Schema.reread_eq_self_iff hreadable).2 hcanonical]
  · exact absurd hreadable hnot

/-- **A parsed schema comes back from its text.** What the parser makes of the text of a schema
that it has parsed, with the same prefixes known, is that schema again, and its text is the same
text. -/
theorem parse_render_of_parse {namespaces : Namespaces} {source : String} {s : Schema}
    (h : parse namespaces source = .ok s) :
    parse namespaces s.render = .ok s ∧
      (parse namespaces s.render).map Schema.render = .ok s.render := by
  refine ⟨parse_render_self h, ?_⟩
  rw [parse_render_self h]
  rfl

/-- A text with comments, an escaped quote, a negative value, a `<` behind a property and names of
items that are left out. -/
theorem parse_render_of_parse_residual :
    let source := "<a = b>\n[a:c] > nt:x, nt:x orderable ! p\n" ++
      " - a:p (long) = 'it\\'s', -5 < '(' // c\n + * (nt:x) = nt:x sns"
    let p : Property :=
      { name := "a:p", requiredType := .long, defaultValues := ["it's", "-5"],
        valueConstraints := ["("] }
    let c : ChildNode :=
      { name := "*", requiredPrimaryTypes := ["nt:x"], defaultPrimaryType := some "nt:x",
        allowsSameNameSiblings := true }
    let s : Schema :=
      { namespaces := .ofList [("a", "b")]
        nodeTypes := [
          { name := "a:c", supertypes := ["nt:x"], isOrderable := true,
            primaryItemName := some "p", properties := [p], childNodes := [c] }] }
    parse .empty source = .ok s ∧ parse .empty s.render = .ok s ∧
      (parse .empty s.render).map Schema.render = .ok s.render := by
  intro source p c s
  have h : parse .empty source = .ok s := by
    rw [parse, Reading.schema_eq_ok_iff]
    decide +kernel
  exact ⟨h, parse_render_of_parse h⟩

end Cnd
