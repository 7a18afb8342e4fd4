import Cnd.Proofs.Grammar.Keyword
import Cnd.Proofs.Writing.Spelling

/-!
# Written phrases

Every option and every attribute is spelled by the text it is written as, with the variant mark
if it carries one. Only a list of operators may come back as another one: it is joined with
commas and cut at them again.
-/

namespace Cnd.Document

/-! ## Keywords -/

section Keyword

variable {words : List String} {symbols : List Token.Kind} {w : String}

/-- A keyword is written as one of its words. -/
theorem spells_lead (hplain : isPlain w) (hw : w ∈ words) :
    Spells w.toList (fun t : Tree.Lead words symbols => t.1.text) w [] :=
  .token (fun rest hrest => lexeme_of_isPlain hplain rest hrest) fun _ =>
    .inl (isKeyword_iff.2 ⟨rfl, w, hw, w, rfl, rfl⟩)

/-- A keyword and the variant mark, which may be there or not. -/
theorem spells_marked (hplain : isPlain w) (hw : w ∈ words) (variant : Bool) :
    Spells (renderMarked w variant) (fun x : Tree.Lead words symbols × Tree.Mark => x.2.isSome)
      variant [] := by
  have hmark : Spells (if variant then [' ', '?'] else [])
      (fun m : Tree.Mark => m.isSome) variant [] := by
    cases variant with
    | false => exact .wrap .nothing fun _ _ _ => ⟨none, rfl, rfl, rfl⟩
    | true =>
      exact (Spells.blank (by decide) (.symbol rfl)).wrap fun t _ _ => ⟨some t, rfl, rfl, rfl⟩
  have hapart : Apart (if variant then [' ', '?'] else []) := by
    cases variant with
    | false => exact apart_nil
    | true => exact apart_cons _ (by decide)
  exact ((spells_lead hplain hw).append hmark hapart).into id Prod.snd fun _ => ⟨rfl, rfl, rfl⟩

/-- A keyword and a text behind it. -/
theorem spells_argument {α β : Type} [Phrase α] {cs : List Char} {value : α → β} {b : β}
    {conds : List Condition} (hplain : isPlain w) (hw : w ∈ words)
    (h : Spells cs value b conds) :
    Spells (w.toList ++ ' ' :: cs) (fun x : Tree.Lead words symbols × α => value x.2) b conds :=
  ((spells_lead hplain hw).append (.blank (by decide) h) (apart_cons _ (by decide))).into id
    Prod.snd fun _ => ⟨rfl, rfl, rfl⟩

end Keyword

/-! ## Options -/

def NodeTypeOption.conditions : NodeTypeOption → List Condition
  | primaryItem (some name) => [.name name]
  | _ => []

theorem spells_nodeTypeOption (o : NodeTypeOption) :
    Spells o.render Tree.nodeTypeOption o o.conditions := by
  cases o with
  | orderable variant =>
    exact (spells_marked (by decide) (by decide) variant).into (fun x => ⟨.orderable, x⟩)
      NodeTypeOption.orderable fun _ => ⟨rfl, rfl, rfl⟩
  | mixin variant =>
    exact (spells_marked (by decide) (by decide) variant).into (fun x => ⟨.mixin, x⟩)
      NodeTypeOption.mixin fun _ => ⟨rfl, rfl, rfl⟩
  | abstract variant =>
    exact (spells_marked (by decide) (by decide) variant).into (fun x => ⟨.abstract, x⟩)
      NodeTypeOption.abstract fun _ => ⟨rfl, rfl, rfl⟩
  | queryable value =>
    cases value with
    | false =>
      exact (spells_lead (by decide) (by decide)).wrap fun t _ _ =>
        ⟨⟨.noQuery, t, ()⟩, rfl, rfl, rfl⟩
    | true =>
      exact (spells_lead (by decide) (by decide)).wrap fun t _ _ =>
        ⟨⟨.query, t, ()⟩, rfl, rfl, rfl⟩
  | primaryItem name =>
    cases name with
    | some name =>
      exact (spells_argument (w := "primaryitem") (by decide) (by decide)
        (spells_name name).orVariant).into (fun x => ⟨.primaryItem, x⟩)
        NodeTypeOption.primaryItem fun _ => ⟨rfl, rfl, rfl⟩
    | none =>
      exact (spells_argument (w := "primaryitem") (by decide) (by decide)
        spells_variant).into (fun x => ⟨.primaryItem, x⟩)
        NodeTypeOption.primaryItem fun _ => ⟨rfl, rfl, rfl⟩

/-! ## Attributes -/

theorem isPlain_label (v : OnParentVersion) : isPlain v.label := by
  cases v <;> decide

theorem spells_itemAttribute (a : ItemAttribute) : Spells a.render Tree.itemAttribute a [] := by
  cases a with
  | autocreated variant =>
    exact (spells_marked (by decide) (by decide) variant).into (fun x => ⟨.autocreated, x⟩)
      ItemAttribute.autocreated fun _ => ⟨rfl, rfl, rfl⟩
  | mandatory variant =>
    exact (spells_marked (by decide) (by decide) variant).into (fun x => ⟨.mandatory, x⟩)
      ItemAttribute.mandatory fun _ => ⟨rfl, rfl, rfl⟩
  | protectedItem variant =>
    exact (spells_marked (by decide) (by decide) variant).into (fun x => ⟨.protectedItem, x⟩)
      ItemAttribute.protectedItem fun _ => ⟨rfl, rfl, rfl⟩
  | primary =>
    exact (spells_lead (by decide) (by decide)).wrap fun t _ _ => ⟨⟨.primary, t, ()⟩, rfl, rfl, rfl⟩
  | onParentVersion value =>
    cases value with
    | some v =>
      exact (spells_lead (isPlain_label v) (List.mem_singleton_self _)).wrap fun t _ _ =>
        ⟨⟨.onParentVersion v, t, ()⟩, rfl, rfl, rfl⟩
    | none =>
      exact (spells_argument (w := "OPV") (by decide) (by decide) (.symbol rfl)).wrap fun x _ _ =>
        ⟨⟨.anyVersion, x⟩, rfl, rfl, rfl⟩

/-- The text of a list of operators. -/
def joinOperators (operators : List String) : String := ", ".intercalate operators

def PropertyAttribute.reread : PropertyAttribute → PropertyAttribute
  | queryOperators (some operators) => queryOperators (some (operatorsOf (joinOperators operators)))
  | a => a

def PropertyAttribute.conditions : PropertyAttribute → List Condition
  | queryOperators (some operators) => [.operators (joinOperators operators)]
  | _ => []

theorem spells_operatorList (s : String) :
    Spells (renderQuoted s) Tree.operatorList (operatorsOf s) [.operators s] := by
  have h : Spells (renderQuoted s) (fun t : Tree.Symbol .string => t.1.text) s [] :=
    .token (fun rest _ => lexeme_renderQuoted s rest) fun _ => rfl
  exact h.wrap fun t ht _ => ⟨⟨t⟩, rfl, congrArg operatorsOf ht, by rw [← ht]; rfl⟩

theorem spells_propertyAttribute (a : PropertyAttribute) :
    Spells a.render Tree.propertyAttribute a.reread a.conditions := by
  cases a with
  | item a =>
    exact (spells_itemAttribute a).into Sum.inl PropertyAttribute.item fun _ => ⟨rfl, rfl, rfl⟩
  | multiple variant =>
    exact (spells_marked (by decide) (by decide) variant).into (fun x => .inr ⟨.multiple, x⟩)
      PropertyAttribute.multiple fun _ => ⟨rfl, rfl, rfl⟩
  | queryOperators value =>
    cases value with
    | some operators =>
      exact (spells_argument (w := "queryops") (by decide) (by decide)
        (spells_operatorList _).orVariant).into (fun x => .inr ⟨.queryOperators, x⟩)
        PropertyAttribute.queryOperators fun _ => ⟨rfl, rfl, rfl⟩
    | none =>
      exact (spells_argument (w := "queryops") (by decide) (by decide)
        spells_variant).into (fun x => .inr ⟨.queryOperators, x⟩)
        PropertyAttribute.queryOperators fun _ => ⟨rfl, rfl, rfl⟩
  | noFullText variant =>
    exact (spells_marked (by decide) (by decide) variant).into (fun x => .inr ⟨.noFullText, x⟩)
      PropertyAttribute.noFullText fun _ => ⟨rfl, rfl, rfl⟩
  | noQueryOrder variant =>
    exact (spells_marked (by decide) (by decide) variant).into (fun x => .inr ⟨.noQueryOrder, x⟩)
      PropertyAttribute.noQueryOrder fun _ => ⟨rfl, rfl, rfl⟩

theorem spells_childNodeAttribute (a : ChildNodeAttribute) :
    Spells a.render Tree.childNodeAttribute a [] := by
  cases a with
  | item a =>
    exact (spells_itemAttribute a).into Sum.inl ChildNodeAttribute.item fun _ => ⟨rfl, rfl, rfl⟩
  | sameNameSiblings variant =>
    exact (spells_marked (by decide) (by decide) variant).into (fun x => .inr ⟨.sameNameSiblings, x⟩)
      ChildNodeAttribute.sameNameSiblings fun _ => ⟨rfl, rfl, rfl⟩

end Cnd.Document
