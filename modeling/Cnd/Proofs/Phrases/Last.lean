import Cnd.Proofs.Grammar.Document
import Cnd.Proofs.Phrases.Kind
import Mathlib.Data.List.Forall2
import Mathlib.Data.List.Induction

/-!
# Repeated phrases

A phrase may be given more than once. What a repeated one comes to depends on its kind: an attribute
that is set outright goes by the last phrase, and the variant mark sets it back to its default;
where a mark only keeps the phrase from taking effect, an earlier phrase without a mark still
counts (`parse_attributes`).
-/

namespace Cnd.Document

/-! ## Laws for repeated phrases -/

section Laws

variable {α σ κ V : Type} [DecidableEq κ] {kind : α → κ} {k : κ} {value : α → Option V}
  {default : V} {step : σ → α → σ} {g : σ → V}

/-- The value of the last phrase of a kind: the default if it has the mark, or if there is none. -/
def lastValue (kind : α → κ) (k : κ) (value : α → Option V) (default : V) (l : List α) : V :=
  ((l.filter (kind · = k)).getLast?.bind value).getD default

/-- The value of the last phrase of a kind that has no mark, and the default if there is none. -/
def lastUnmarked (kind : α → κ) (k : κ) (value : α → Option V) (default : V) (l : List α) : V :=
  ((l.filter (kind · = k)).filterMap value).getLast?.getD default

/-- The last phrase decides what every phrase of a kind sets outright. -/
theorem foldl_lastValue
    (hstep : ∀ s x, g (step s x) = if kind x = k then (value x).getD default else g s)
    {s : σ} (hs : g s = default) (l : List α) :
    g (l.foldl step s) = lastValue kind k value default l := by
  induction l using List.reverseRecOn with
  | nil => exact hs
  | append_singleton l x ih =>
    rw [List.foldl_append, List.foldl_cons, List.foldl_nil, hstep, ih, lastValue, lastValue,
      List.filter_append]
    by_cases hx : kind x = k
    · simp [hx]
    · simp [hx]

/-- The last phrase without a mark decides where a mark leaves all as it is. -/
theorem foldl_lastUnmarked
    (hstep : ∀ s x, g (step s x) = if kind x = k then (value x).getD (g s) else g s)
    {s : σ} (hs : g s = default) (l : List α) :
    g (l.foldl step s) = lastUnmarked kind k value default l := by
  induction l using List.reverseRecOn with
  | nil => exact hs
  | append_singleton l x ih =>
    rw [List.foldl_append, List.foldl_cons, List.foldl_nil, hstep, ih, lastUnmarked, lastUnmarked,
      List.filter_append, List.filterMap_append]
    by_cases hx : kind x = k
    · cases hvalue : value x with
      | none => simp [hx, hvalue]
      | some v => simp [hx, hvalue]
    · simp [hx]

end Laws

/-! ## Values of phrases

None for a phrase with the variant mark, and for one that has no such value. -/

/-- The value that a flag is set to, unless the phrase has the mark. -/
def unlessVariant (variant value : Bool) : Option Bool := if variant then none else some value

def NodeTypeOption.flag? : NodeTypeOption → Option Bool
  | orderable variant | mixin variant | abstract variant => unlessVariant variant true
  | queryable value => some value
  | primaryItem _ => none

/-- The primary item that an option gives a node type. -/
def NodeTypeOption.primaryItem? : NodeTypeOption → Option (Option String)
  | primaryItem (some name) => some (some name)
  | _ => none

def ItemAttribute.flag? : ItemAttribute → Option Bool
  | autocreated variant | mandatory variant | protectedItem variant => unlessVariant variant true
  | primary | onParentVersion _ => none

def ItemAttribute.version? : ItemAttribute → Option OnParentVersion
  | onParentVersion value => value
  | _ => none

def PropertyAttribute.item? : PropertyAttribute → Option ItemAttribute
  | item a => some a
  | _ => none

def PropertyAttribute.flag? : PropertyAttribute → Option Bool
  | multiple variant => unlessVariant variant true
  | noFullText variant | noQueryOrder variant => unlessVariant variant false
  | item _ | queryOperators _ => none

def PropertyAttribute.operators? : PropertyAttribute → Option (List String)
  | queryOperators operators => operators
  | _ => none

def ChildNodeAttribute.item? : ChildNodeAttribute → Option ItemAttribute
  | item a => some a
  | _ => none

def ChildNodeAttribute.flag? : ChildNodeAttribute → Option Bool
  | sameNameSiblings variant => unlessVariant variant true
  | item _ => none

def ItemDeclaration.property? : ItemDeclaration → Option PropertyDeclaration
  | property p => some p
  | childNode _ => none

def ItemDeclaration.childNode? : ItemDeclaration → Option ChildNodeDeclaration
  | property _ => none
  | childNode c => some c

def Declaration.nodeType? : Declaration → Option NodeTypeDeclaration
  | mapping _ _ => none
  | nodeType t => some t

end Cnd.Document

/-! ## What the phrases decide -/

namespace Cnd

open Document

/-- The attributes of the item are those that the phrases give. -/
structure Item.DecidedBy (l : List ItemAttribute) (i : Item) : Prop where
  autocreated : i.isAutocreated =
    lastValue ItemAttribute.kind .autocreated ItemAttribute.flag? false l
  mandatory : i.isMandatory = lastValue ItemAttribute.kind .mandatory ItemAttribute.flag? false l
  protectedItem : i.isProtected =
    lastValue ItemAttribute.kind .protectedItem ItemAttribute.flag? false l
  onParentVersion : i.onParentVersion =
    lastUnmarked ItemAttribute.kind .onParentVersion ItemAttribute.version? .copy l

structure Property.DecidedBy (l : List PropertyAttribute) (p : Property) : Prop where
  item : p.toItem.DecidedBy (l.filterMap PropertyAttribute.item?)
  multiple : p.isMultiple =
    lastValue PropertyAttribute.kind .multiple PropertyAttribute.flag? false l
  queryOperators : p.availableQueryOperators =
    lastUnmarked PropertyAttribute.kind .queryOperators PropertyAttribute.operators?
      Cnd.queryOperators l
  fullText : p.isFullTextSearchable =
    lastUnmarked PropertyAttribute.kind .noFullText PropertyAttribute.flag? true l
  queryOrder : p.isQueryOrderable =
    lastUnmarked PropertyAttribute.kind .noQueryOrder PropertyAttribute.flag? true l

structure ChildNode.DecidedBy (l : List ChildNodeAttribute) (c : ChildNode) : Prop where
  item : c.toItem.DecidedBy (l.filterMap ChildNodeAttribute.item?)
  sameNameSiblings : c.allowsSameNameSiblings =
    lastValue ChildNodeAttribute.kind .sameNameSiblings ChildNodeAttribute.flag? false l

/-- The attributes of the node type are those that its options and its items give. An item that
stands for the node is written behind the options, and so it takes their place. -/
structure NodeType.DecidedBy (d : NodeTypeDeclaration) (t : NodeType) : Prop where
  orderable : t.isOrderable =
    lastValue NodeTypeOption.kind .orderable NodeTypeOption.flag? false d.options
  mixin : t.isMixin = lastValue NodeTypeOption.kind .mixin NodeTypeOption.flag? false d.options
  abstract : t.isAbstract =
    lastValue NodeTypeOption.kind .abstract NodeTypeOption.flag? false d.options
  queryable : t.isQueryable =
    lastValue NodeTypeOption.kind .queryable NodeTypeOption.flag? true d.options
  primaryItem : t.primaryItemName =
    ((d.items.filter (·.isPrimary)).getLast?.map (·.name)).or
      (lastUnmarked NodeTypeOption.kind .primaryItem NodeTypeOption.primaryItem? none d.options)
  properties : List.Forall₂ (fun p q => Property.DecidedBy p.attributes q)
    (d.items.filterMap ItemDeclaration.property?) t.properties
  childNodes : List.Forall₂ (fun c e => ChildNode.DecidedBy c.attributes e)
    (d.items.filterMap ItemDeclaration.childNode?) t.childNodes

namespace Document

/-! ## Items -/

theorem decidedBy_item (name : String) (l : List ItemAttribute) :
    Item.DecidedBy l (l.foldl ItemAttribute.apply { name }) where
  autocreated := by
    refine foldl_lastValue (g := Item.isAutocreated) ?_ rfl l
    rintro i ((_ | _) | _ | _ | _ | (_ | _)) <;> rfl
  mandatory := by
    refine foldl_lastValue (g := Item.isMandatory) ?_ rfl l
    rintro i (_ | (_ | _) | _ | _ | (_ | _)) <;> rfl
  protectedItem := by
    refine foldl_lastValue (g := Item.isProtected) ?_ rfl l
    rintro i (_ | _ | (_ | _) | _ | (_ | _)) <;> rfl
  onParentVersion := by
    refine foldl_lastUnmarked (g := Item.onParentVersion) ?_ rfl l
    rintro i (_ | _ | _ | _ | (_ | _)) <;> rfl

/-- Only its own attributes concern the item that a property is. -/
theorem toItem_foldl_property (l : List PropertyAttribute) (p : Property) :
    (l.foldl PropertyAttribute.apply p).toItem =
      (l.filterMap PropertyAttribute.item?).foldl ItemAttribute.apply p.toItem := by
  induction l generalizing p with
  | nil => rfl
  | cons a l ih =>
    rw [List.foldl_cons, ih]
    rcases a with a | _ | (_ | _) | (_ | _) | (_ | _) <;> rfl

theorem toItem_foldl_childNode (l : List ChildNodeAttribute) (c : ChildNode) :
    (l.foldl ChildNodeAttribute.apply c).toItem =
      (l.filterMap ChildNodeAttribute.item?).foldl ItemAttribute.apply c.toItem := by
  induction l generalizing c with
  | nil => rfl
  | cons a l ih =>
    rw [List.foldl_cons, ih]
    cases a <;> rfl

theorem decidedBy_property (d : PropertyDeclaration) :
    Property.DecidedBy d.attributes d.toProperty where
  item := by
    rw [PropertyDeclaration.toProperty, toItem_foldl_property]
    exact decidedBy_item d.name _
  multiple := by
    refine foldl_lastValue (g := Property.isMultiple) ?_ rfl _
    rintro p (_ | (_ | _) | (_ | _) | (_ | _) | (_ | _)) <;> rfl
  queryOperators := by
    refine foldl_lastUnmarked (g := Property.availableQueryOperators) ?_ rfl _
    rintro p (_ | _ | (_ | _) | (_ | _) | (_ | _)) <;> rfl
  fullText := by
    refine foldl_lastUnmarked (g := Property.isFullTextSearchable) ?_ rfl _
    rintro p (_ | _ | (_ | _) | (_ | _) | (_ | _)) <;> rfl
  queryOrder := by
    refine foldl_lastUnmarked (g := Property.isQueryOrderable) ?_ rfl _
    rintro p (_ | _ | (_ | _) | (_ | _) | (_ | _)) <;> rfl

theorem decidedBy_childNode (d : ChildNodeDeclaration) :
    ChildNode.DecidedBy d.attributes d.toChildNode where
  item := by
    rw [ChildNodeDeclaration.toChildNode, toItem_foldl_childNode]
    exact decidedBy_item d.name _
  sameNameSiblings := by
    refine foldl_lastValue (g := ChildNode.allowsSameNameSiblings) ?_ rfl _
    rintro c (_ | (_ | _)) <;> rfl

/-! ## Node types -/

/-- The items add themselves to the node type, and the last one that stands for the node gives the
name. -/
theorem foldl_items (items : List ItemDeclaration) (t : NodeType) :
    items.foldl ItemDeclaration.apply t = { t with
      primaryItemName := ((items.filter (·.isPrimary)).getLast?.map (·.name)).or t.primaryItemName
      properties := t.properties ++
        (items.filterMap ItemDeclaration.property?).map PropertyDeclaration.toProperty
      childNodes := t.childNodes ++
        (items.filterMap ItemDeclaration.childNode?).map ChildNodeDeclaration.toChildNode } := by
  induction items using List.reverseRecOn with
  | nil => simp
  | append_singleton items i ih =>
    rw [List.foldl_append, ih, List.foldl_cons, List.foldl_nil, ItemDeclaration.apply.eq_def]
    cases hprimary : i.isPrimary <;> cases i <;>
      simp [hprimary, ItemDeclaration.property?, ItemDeclaration.childNode?]

/-- The options are not about the items. -/
theorem foldl_options_items (l : List NodeTypeOption) (t : NodeType) :
    (l.foldl NodeTypeOption.apply t).properties = t.properties ∧
      (l.foldl NodeTypeOption.apply t).childNodes = t.childNodes := by
  induction l generalizing t with
  | nil => exact ⟨rfl, rfl⟩
  | cons o l ih =>
    rw [List.foldl_cons, (ih _).1, (ih _).2]
    rcases o with _ | _ | _ | _ | (_ | _) <;> exact ⟨rfl, rfl⟩

theorem decidedBy_nodeType (d : NodeTypeDeclaration) : NodeType.DecidedBy d d.toNodeType := by
  rw [NodeTypeDeclaration.toNodeType, foldl_items]
  obtain ⟨hproperties, hchildNodes⟩ :=
    foldl_options_items d.options { name := d.name, supertypes := d.supertypes }
  rw [hproperties, hchildNodes, List.nil_append, List.nil_append]
  constructor
  case orderable =>
    refine foldl_lastValue (g := NodeType.isOrderable) ?_ rfl _
    rintro t ((_ | _) | _ | _ | _ | (_ | _)) <;> rfl
  case mixin =>
    refine foldl_lastValue (g := NodeType.isMixin) ?_ rfl _
    rintro t (_ | (_ | _) | _ | _ | (_ | _)) <;> rfl
  case abstract =>
    refine foldl_lastValue (g := NodeType.isAbstract) ?_ rfl _
    rintro t (_ | _ | (_ | _) | _ | (_ | _)) <;> rfl
  case queryable =>
    refine foldl_lastValue (g := NodeType.isQueryable) ?_ rfl _
    rintro t (_ | _ | _ | _ | (_ | _)) <;> rfl
  case primaryItem =>
    refine congrArg (Option.or _) (foldl_lastUnmarked (g := NodeType.primaryItemName) ?_ rfl _)
    rintro t (_ | _ | _ | _ | (_ | _)) <;> rfl
  case properties =>
    rw [List.forall₂_map_right_iff, List.forall₂_same]
    exact fun p _ => decidedBy_property p
  case childNodes =>
    rw [List.forall₂_map_right_iff, List.forall₂_same]
    exact fun c _ => decidedBy_childNode c

/-! ## Documents -/

theorem nodeTypes_foldl (ds : List Declaration) (s : Schema) :
    (ds.foldl Declaration.apply s).nodeTypes =
      s.nodeTypes ++ (ds.filterMap Declaration.nodeType?).map NodeTypeDeclaration.toNodeType := by
  induction ds generalizing s with
  | nil => simp
  | cons d ds ih =>
    rw [List.foldl_cons, ih]
    cases d with
    | mapping key uri => rfl
    | nodeType t => exact List.append_assoc ..

/-- The node types of a document, as they are written. -/
def writtenNodeTypes (ds : List Tree.Declaration) : List NodeTypeDeclaration :=
  (ds.map Tree.declaration).filterMap Declaration.nodeType?

/-- **What repeated phrases come to.** Of the options orderable, mixin and abstract, of autocreated,
mandatory and protected, of multiple and of same-name siblings the last phrase decides, and the
variant mark stands for the default. Of the primary item, the on-parent-version value, the query
operators and the two exclusions from queries the last phrase without a mark decides, even if one
with a mark comes behind it. -/
theorem parse_attributes {namespaces : Namespaces} {source : String} {s : Schema}
    (h : parse namespaces source = .ok s) :
    ∃ ds : List Tree.Declaration,
      (∀ es : List Tree.Declaration, tokens es = (scan source).tokens ↔ es = ds) ∧
        List.Forall₂ NodeType.DecidedBy (writtenNodeTypes ds) s.nodeTypes := by
  obtain ⟨-, ds, htokens, -, rfl⟩ := derivation_of_parse h
  refine ⟨ds, fun es => ⟨fun hes => ?_, fun hes => by rw [hes, htokens]⟩, ?_⟩
  · exact tokens_injective (hes.trans htokens.symm)
  · rw [Tree.schema, toSchema, nodeTypes_foldl, List.nil_append, writtenNodeTypes,
      List.forall₂_map_right_iff, List.forall₂_same]
    exact fun t _ => decidedBy_nodeType t

/-- Options and attributes that are given twice, with and without a mark. -/
theorem parse_attributes_twice :
    ∃ s, parse .empty "[a] o o ? ! b ! ?\n+ c m ? m * ? * version OPV ?" = .ok s ∧
      ∃ ds : List Tree.Declaration,
        tokens ds = (scan "[a] o o ? ! b ! ?\n+ c m ? m * ? * version OPV ?").tokens ∧
        List.Forall₂ NodeType.DecidedBy (writtenNodeTypes ds) s.nodeTypes := by
  have h : parse .empty "[a] o o ? ! b ! ?\n+ c m ? m * ? * version OPV ?" =
      .ok { nodeTypes := [{
        name := "a"
        primaryItemName := some "b"
        childNodes := [{
          name := "c"
          isMandatory := true
          onParentVersion := .version
          allowsSameNameSiblings := true }] }] } :=
    Reading.schema_eq_ok_iff.2 ⟨by decide +kernel, by decide +kernel⟩
  obtain ⟨ds, hds, hdecided⟩ := parse_attributes h
  exact ⟨_, h, ds, (hds ds).2 rfl, hdecided⟩

/-- The last phrase of its kind has a mark, and yet the attribute does not have its default. -/
theorem noFullText_mark_passed_over :
    let attributes : List PropertyAttribute := [.noFullText false, .noFullText true]
    (read .empty "[a]\n- p nofulltext nofulltext ?").declarations =
        [.nodeType ⟨"a", [], [], [.property ⟨"p", none, [], attributes, []⟩]⟩] ∧
      lastValue PropertyAttribute.kind .noFullText PropertyAttribute.flag? true attributes = true ∧
      parse .empty "[a]\n- p nofulltext nofulltext ?" =
        .ok { nodeTypes := [{
          name := "a"
          properties := [{ name := "p", isFullTextSearchable := false }] }] } :=
  ⟨by decide +kernel, rfl, Reading.schema_eq_ok_iff.2 ⟨by decide +kernel, by decide +kernel⟩⟩

end Document

end Cnd
