import Cnd.Document.Meaning
import Cnd.Proofs.Writing.Declaration
import Cnd.Schema.Canonical

/-!
# What a written schema comes back as

The declarations of a schema, as they come back from its text, denote the schema with two
changes: a list of supertypes or of required types loses its repetitions, and a list of operators
is put in the form in which it is read. A schema with neither is denoted as it is.
-/

namespace Cnd

open Cnd.Document

/-! ## Items -/

theorem foldl_phraseIf {α σ : Type} (f : σ → α → σ) (s : σ) (condition : Bool) (a : α) :
    (phraseIf condition a).foldl f s = if condition then f s a else s := by
  cases condition <;> rfl

theorem flatMap_phraseIf {α β : Type} (f : α → List β) (condition : Bool) (a : α) :
    (phraseIf condition a).flatMap f = if condition then f a else [] := by
  cases condition <;> simp [phraseIf]

theorem mem_phraseIf {α : Type} {condition : Bool} {a b : α} :
    b ∈ phraseIf condition a ↔ condition = true ∧ b = a := by
  cases condition <;> simp [phraseIf]

/-- The primary item is not marked where it is written. -/
theorem Item.primary_not_mem (i : Item) : ItemAttribute.primary ∉ i.attributes := by
  simp [Item.attributes, mem_phraseIf]

/-- The attributes of an item that are written make up the item. -/
theorem Item.foldl_attributes (i : Item) :
    i.attributes.foldl ItemAttribute.apply { name := i.name } = i := by
  obtain ⟨name, autocreated, mandatory, protected_, opv⟩ := i
  simp only [Item.attributes, List.foldl_append, foldl_phraseIf]
  cases autocreated <;> cases mandatory <;> cases protected_ <;> cases opv <;> rfl

/-- The operators that come back from the text of a list. The default list is not written. -/
def rereadOperators (operators : List String) : List String :=
  if operators = queryOperators then operators else operatorsOf (joinOperators operators)

namespace Property

/-- The property that comes back from its text. -/
def reread (p : Property) : Property :=
  { p with availableQueryOperators := rereadOperators p.availableQueryOperators }

theorem reread_eq_self_iff {p : Property} :
    p.reread = p ↔ rereadOperators p.availableQueryOperators = p.availableQueryOperators := by
  cases p
  simp [reread]

theorem foldl_item (l : List ItemAttribute) (p : Property) :
    (l.map PropertyAttribute.item).foldl PropertyAttribute.apply p =
      { p with toItem := l.foldl ItemAttribute.apply p.toItem } := by
  induction l generalizing p with
  | nil => rfl
  | cons a l ih => rw [List.map_cons, List.foldl_cons, ih]; rfl

theorem toProperty_reread (p : Property) : p.toDeclaration.reread.toProperty = p.reread := by
  have hitems (l : List ItemAttribute) :
      (l.map PropertyAttribute.item).map PropertyAttribute.reread = l.map .item := by
    rw [List.map_map]
    rfl
  simp only [PropertyDeclaration.toProperty, PropertyDeclaration.reread, toDeclaration,
    List.map_append, List.foldl_append, hitems, foldl_item]
  have hitem := Item.foldl_attributes p.toItem
  rw [hitem]
  simp only [List.foldl_map, foldl_phraseIf]
  obtain ⟨i, type, defaults, constraints, multiple, operators, fullText, order⟩ := p
  -- The default operators are left out and come back as the default of the property.
  by_cases hoperators : operators = queryOperators
  · subst hoperators
    cases multiple <;> cases fullText <;> cases order <;> rfl
  · simp only [reread, rereadOperators, hoperators, ne_eq, not_false_eq_true, decide_true, if_true]
    cases multiple <;> cases fullText <;> cases order <;> rfl

theorem isPrimary_reread (p : Property) :
    (ItemDeclaration.property p.toDeclaration.reread).isPrimary = false := by
  simp [ItemDeclaration.isPrimary, PropertyDeclaration.reread, toDeclaration, mem_phraseIf,
    PropertyAttribute.reread, Item.primary_not_mem]

end Property

namespace ChildNode

/-- The child node that comes back from its text. -/
def reread (c : ChildNode) : ChildNode :=
  { c with requiredPrimaryTypes := firsts c.requiredPrimaryTypes }

theorem reread_eq_self_iff {c : ChildNode} : c.reread = c ↔ c.requiredPrimaryTypes.Nodup := by
  cases c
  simp [reread, firsts_eq_self_iff]

theorem foldl_item (l : List ItemAttribute) (c : ChildNode) :
    (l.map ChildNodeAttribute.item).foldl ChildNodeAttribute.apply c =
      { c with toItem := l.foldl ItemAttribute.apply c.toItem } := by
  induction l generalizing c with
  | nil => rfl
  | cons a l ih => rw [List.map_cons, List.foldl_cons, ih]; rfl

theorem toChildNode_reread (c : ChildNode) :
    c.toDeclaration.reread.toChildNode = c.reread := by
  simp only [ChildNodeDeclaration.toChildNode, ChildNodeDeclaration.reread, toDeclaration,
    List.foldl_append, foldl_phraseIf, foldl_item]
  have hitem := Item.foldl_attributes c.toItem
  rw [hitem]
  obtain ⟨i, types, default, siblings⟩ := c
  cases siblings <;> rfl

theorem isPrimary_reread (c : ChildNode) :
    (ItemDeclaration.childNode c.toDeclaration.reread).isPrimary = false := by
  simp [ItemDeclaration.isPrimary, ChildNodeDeclaration.reread, toDeclaration, mem_phraseIf,
    Item.primary_not_mem]

end ChildNode

/-! ## Node types -/

namespace NodeType

/-- The node type that comes back from its text. -/
def reread (t : NodeType) : NodeType :=
  { t with
    supertypes := firsts t.supertypes
    properties := t.properties.map Property.reread
    childNodes := t.childNodes.map ChildNode.reread }

/-- The options of a node type that are written make up its attributes. -/
theorem foldl_options (t : NodeType) (supertypes : List String) :
    t.options.foldl NodeTypeOption.apply { name := t.name, supertypes } =
      { t with supertypes, properties := [], childNodes := [] } := by
  -- Each attribute is written unless it has its default, so the cases are those of the fields.
  obtain ⟨name, supers, abstract_, mixin_, orderable, queryable, primary, properties, children⟩ := t
  simp only [options, List.foldl_append, foldl_phraseIf]
  cases primary <;> cases abstract_ <;> cases mixin_ <;> cases orderable <;> cases queryable <;> rfl

theorem foldl_properties (ps : List Property) (t : NodeType) :
    (ps.map fun p => ItemDeclaration.property p.toDeclaration.reread).foldl
        ItemDeclaration.apply t =
      { t with properties := t.properties ++ ps.map Property.reread } := by
  induction ps generalizing t with
  | nil => simp
  | cons p ps ih =>
    have hprimary := Property.isPrimary_reread p
    rw [List.map_cons, List.foldl_cons, ih, ItemDeclaration.apply, hprimary]
    simp [Property.toProperty_reread]

theorem foldl_childNodes (cs : List ChildNode) (t : NodeType) :
    (cs.map fun c => ItemDeclaration.childNode c.toDeclaration.reread).foldl
        ItemDeclaration.apply t =
      { t with childNodes := t.childNodes ++ cs.map ChildNode.reread } := by
  induction cs generalizing t with
  | nil => simp
  | cons c cs ih =>
    have hprimary := ChildNode.isPrimary_reread c
    rw [List.map_cons, List.foldl_cons, ih, ItemDeclaration.apply, hprimary]
    simp [ChildNode.toChildNode_reread]

theorem toNodeType_reread (t : NodeType) : t.toDeclaration.reread.toNodeType = t.reread := by
  simp only [NodeTypeDeclaration.toNodeType, NodeTypeDeclaration.reread, toDeclaration,
    List.map_append, List.map_map, List.foldl_append, Function.comp_def, ItemDeclaration.reread]
  rw [foldl_options, foldl_properties, foldl_childNodes, List.nil_append, List.nil_append]
  rfl

end NodeType

/-! ## Schemas -/

namespace Schema

/-- The declarations that a schema is written as. -/
def declarations (s : Schema) : List Declaration :=
  s.namespaces.entries.map (fun e => .mapping e.1 e.2) ++
    s.nodeTypes.map fun t => .nodeType t.toDeclaration

/-- The schema that comes back from its text. -/
def reread (s : Schema) : Schema := { s with nodeTypes := s.nodeTypes.map NodeType.reread }

theorem foldl_mappings (l : List (String × String)) (s : Schema) :
    (l.map fun e => Declaration.mapping e.1 e.2).foldl Declaration.apply s =
      { s with namespaces := l.foldl (fun ns e => ns.insert e.1 e.2) s.namespaces } := by
  induction l generalizing s with
  | nil => rfl
  | cons e l ih => rw [List.map_cons, List.foldl_cons, ih]; rfl

theorem foldl_nodeTypes (l : List NodeTypeDeclaration) (s : Schema) :
    (l.map Declaration.nodeType).foldl Declaration.apply s =
      { s with nodeTypes := s.nodeTypes ++ l.map NodeTypeDeclaration.toNodeType } := by
  induction l generalizing s with
  | nil => simp
  | cons t l ih => rw [List.map_cons, List.foldl_cons, ih]; simp [Declaration.apply]

/-- The declarations of a schema, as they come back, denote it as it comes back. -/
theorem toSchema_reread (s : Schema) :
    toSchema (s.declarations.map Declaration.reread) = s.reread := by
  have hmappings : (s.namespaces.entries.map fun e => Declaration.mapping e.1 e.2).map
      Declaration.reread = s.namespaces.entries.map fun e => .mapping e.1 e.2 := by
    rw [List.map_map]
    rfl
  have hnodeTypes : (s.nodeTypes.map fun t => Declaration.nodeType t.toDeclaration).map
      Declaration.reread =
        (s.nodeTypes.map fun t => t.toDeclaration.reread).map .nodeType := by
    rw [List.map_map, List.map_map]
    rfl
  have hnamespaces : s.namespaces.entries.foldl (fun ns e => ns.insert e.1 e.2)
      Namespaces.empty = s.namespaces := Namespaces.ofList_entries s.namespaces
  rw [toSchema, declarations, List.map_append, List.foldl_append, hmappings, hnodeTypes,
    foldl_mappings, foldl_nodeTypes, List.map_map, hnamespaces]
  simp only [reread, Function.comp_def, NodeType.toNodeType_reread, List.nil_append]

end Schema

/-! ## Schemas that come back unchanged -/

/-- Is the list one of different query operators? -/
def CanonicalOperators (operators : List String) : Prop :=
  operators.Nodup ∧ ∀ o ∈ operators, o ∈ queryOperators

theorem canonicalOperators_queryOperators : CanonicalOperators queryOperators := by
  constructor
  · decide
  · exact fun _ h => h

theorem operatorPieces_cons {o : String} (ho : o ∈ queryOperators) (rest : String) :
    operatorPieces (o ++ ", " ++ rest) = o :: operatorPieces rest := by
  have hall : ∀ o ∈ queryOperators,
      ',' ∉ o.toList ∧ Text.upper (String.ofList (Text.trim o.toList)) = o := by decide +kernel
  obtain ⟨hcomma, hupper⟩ := hall o ho
  have hsplit : Text.splitOn ',' (o ++ ", " ++ rest).toList =
      o.toList :: Text.splitOn ',' (' ' :: rest.toList) := by
    simpa using Text.splitOn_append hcomma (' ' :: rest.toList)
  rw [operatorPieces, operatorPieces, hsplit, List.map_cons, hupper]
  -- The blank behind the comma is trimmed from the next piece.
  cases hrest : Text.splitOn ',' rest.toList with
  | nil => exact absurd hrest (Text.splitOn_ne_nil _ _)
  | cons piece pieces =>
    rw [Text.splitOn, if_neg (by decide), hrest, List.map_cons, List.map_cons,
      Text.trim_cons (by decide)]

theorem operatorPieces_singleton {o : String} (ho : o ∈ queryOperators) :
    operatorPieces o = [o] := by
  have hall : ∀ o ∈ queryOperators, operatorPieces o = [o] := by decide +kernel
  exact hall o ho

/-- Operators are cut out of their text as they are. -/
theorem operatorPieces_joinOperators {o : String} {operators : List String}
    (h : ∀ p ∈ o :: operators, p ∈ queryOperators) :
    operatorPieces (joinOperators (o :: operators)) = o :: operators := by
  rw [joinOperators]
  induction operators generalizing o with
  | nil => rw [String.intercalate_singleton, operatorPieces_singleton (h o List.mem_cons_self)]
  | cons p operators ih =>
    obtain ⟨ho, hmore⟩ := List.forall_mem_cons.1 h
    rw [String.intercalate_cons_cons, operatorPieces_cons ho, ih hmore]

theorem operatorsOf_joinOperators {operators : List String} (h : CanonicalOperators operators) :
    operatorsOf (joinOperators operators) = operators := by
  cases operators with
  | nil => decide +kernel
  | cons o operators =>
    have hne : ∀ p ∈ queryOperators, p ≠ "" := by decide
    rw [operatorsOf, operatorPieces_joinOperators h.2, List.filter_eq_self.2, firsts_of_nodup h.1]
    intro p hp
    simpa using hne p (h.2 p hp)

/-- A list of operators that is read is one of different operators. -/
theorem canonicalOperators_operatorsOf {text : String} {known : List String}
    (h : (Condition.operators text).Holds known) : CanonicalOperators (operatorsOf text) := by
  refine ⟨nodup_firsts _, fun o ho => ?_⟩
  obtain ⟨hpiece, hne⟩ := List.mem_filter.1 (mem_firsts.1 ho)
  rcases h o hpiece with rfl | hmem
  · simp at hne
  · exact hmem

/-- Different operators can be read from their text. -/
theorem CanonicalOperators.holds {operators known : List String}
    (h : CanonicalOperators operators) :
    (Condition.operators (joinOperators operators)).Holds known := by
  cases operators with
  | nil => exact (by decide +kernel : ∀ piece ∈ operatorPieces (joinOperators []),
      piece = "" ∨ piece ∈ queryOperators)
  | cons o operators =>
    intro piece hpiece
    rw [operatorPieces_joinOperators h.2] at hpiece
    exact .inr (h.2 piece hpiece)

/-- Where the text of a list of operators can be read, the list comes back as it is exactly if
it names different operators. -/
theorem rereadOperators_eq_self_iff {operators known : List String}
    (hread : operators ≠ queryOperators →
      (Condition.operators (joinOperators operators)).Holds known) :
    rereadOperators operators = operators ↔ CanonicalOperators operators := by
  unfold rereadOperators
  by_cases h : operators = queryOperators
  · subst h
    exact iff_of_true rfl canonicalOperators_queryOperators
  · rw [if_neg h]
    constructor
    · intro heq
      rw [← heq]
      exact canonicalOperators_operatorsOf (hread h)
    · exact operatorsOf_joinOperators

end Cnd
