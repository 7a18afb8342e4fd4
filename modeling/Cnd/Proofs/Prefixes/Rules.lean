import Cnd.Proofs.Grammar.Parts
import Cnd.Proofs.Prefixes.Combinators

/-!
# What the known prefixes decide

One fact for each rule in the order of the grammar. The known prefixes are asked for in one place,
behind a name with a colon (`eases_name`); all other rules hand on what comes of the names in them.
-/

namespace Cnd.Document

open Rule

variable {s : Scan} {more : List String}

/-! ## Names and values -/

/-- A name is blamed for its prefix, or reading goes on behind it. -/
theorem eases_name : Eases s more readName := by
  refine .taken (p := fun t => t.kind = .string ∨ t.kind = .identifier) rfl nofun
    fun {known known' k t} hadds ht => ?_
  have hk : k + 1 ≤ s.tokens.length := (List.getElem?_eq_some_iff.1 ht).1
  cases prefixOf? t.text with
  | none => exact .ok (Nat.le_succ k) hk
  | some key =>
    have hread (known : List String) (ts : List Token) :
        (MonadReader.read : Rule Context) ⟨s.ending, known⟩ ts = .ok (⟨s.ending, known⟩, ts) := rfl
    dsimp only
    rw [bind_ok (hread known _), bind_ok (hread known' _)]
    by_cases hkey : key ∈ known
    · rw [if_pos hkey, if_pos ((hadds key).2 (.inl hkey))]
      exact .ok (Nat.le_succ k) hk
    · rw [if_neg hkey]
      by_cases hmore : key ∈ more
      · rw [if_pos ((hadds key).2 (.inr hmore))]
        exact .found (Nat.le_refl k) (Scan.getElem?_delivered ht) hmore (.ok (Nat.le_refl _) hk)
      · rw [if_neg fun hkey' => ((hadds key).1 hkey').elim hkey hmore]
        exact .missed (Nat.le_refl k) (Scan.getElem?_delivered ht) hmore

theorem eases_itemName : Eases s more readItemName := eases_name.orSymbol .star residualName

theorem eases_nameOrVariant : Eases s more (orVariant readName) := eases_name.orVariant

theorem eases_namesOrVariant : Eases s more (orVariant readNames) :=
  ((eases_name.commaSeparated reads_name).map firsts).orVariant

/-- A minus and the word glued to it are taken together. -/
theorem eases_negative : Eases s more readNegative := by
  have hnone : Eases s more (pure none : Rule (Option String)) := .pure none
  intro known known' hadds k hk
  refine .peek fun sign _ => ?_
  by_cases hminus : sign.kind = .minus
  · rw [if_pos hminus]
    refine .peek fun word hword => ?_
    by_cases hglued : word.kind = .identifier ∧ word.position.offset = sign.position.offset + 1
    · rw [if_pos hglued]
      have hj : k + 2 ≤ s.tokens.length := Scan.lt_of_look hword (by simp [hglued.1])
      have h : Eased s more k (.ok (some ("-" ++ word.text), s.tokens.drop (k + 2)))
          (.ok (some ("-" ++ word.text), s.tokens.drop (k + 2))) := .ok (Nat.le_add_right k 2) hj
      rwa [← List.drop_drop] at h
    · rw [if_neg hglued]
      exact hnone known known' hadds k hk
  · rw [if_neg hminus]
    exact hnone known known' hadds k hk

theorem eases_value : Eases s more readValue :=
  eases_negative.otherwise (Eases.text.map Token.text)

theorem eases_valuesOrVariant : Eases s more (orVariant readValues) :=
  (eases_value.commaSeparated reads_value).orVariant

/-! ## Options and attributes -/

theorem eases_variant : Eases s more variant := .accept .question

theorem eases_nodeTypeOption : Eases s more readNodeTypeOption := by
  refine .phrase fun k => ?_
  cases k with
  | orderable => exact eases_variant.map NodeTypeOption.orderable
  | mixin => exact eases_variant.map NodeTypeOption.mixin
  | abstract => exact eases_variant.map NodeTypeOption.abstract
  | noQuery => exact .pure _
  | query => exact .pure _
  | primaryItem => exact eases_nameOrVariant.map NodeTypeOption.primaryItem

theorem eases_itemAttribute : Eases s more readItemAttribute := by
  refine .phrase fun k => ?_
  cases k with
  | autocreated => exact eases_variant.map ItemAttribute.autocreated
  | mandatory => exact eases_variant.map ItemAttribute.mandatory
  | protectedItem => exact eases_variant.map ItemAttribute.protectedItem
  | primary => exact .pure _
  | anyVersion => exact (Eases.expect .question).map fun _ => ItemAttribute.onParentVersion none
  | onParentVersion => exact .pure _

theorem eases_operatorList : Eases s more readOperatorList := by
  refine .taken (p := fun t => t.kind = .string) rfl nofun fun {known known' k t} _ ht => ?_
  have hk : k + 1 ≤ s.tokens.length := (List.getElem?_eq_some_iff.1 ht).1
  cases readQueryOperators t.text with
  | ok operators => exact .ok (Nat.le_succ k) hk
  | error piece => exact .parse (Nat.le_refl k) (Scan.getElem?_delivered ht) nofun

theorem eases_propertyAttribute : Eases s more readPropertyAttribute := by
  refine (eases_itemAttribute.map (Option.map PropertyAttribute.item)).orElse (.phrase fun k => ?_)
  cases k with
  | multiple => exact eases_variant.map PropertyAttribute.multiple
  | queryOperators => exact eases_operatorList.orVariant.map PropertyAttribute.queryOperators
  | noFullText => exact eases_variant.map PropertyAttribute.noFullText
  | noQueryOrder => exact eases_variant.map PropertyAttribute.noQueryOrder

theorem eases_childNodeAttribute : Eases s more readChildNodeAttribute := by
  refine (eases_itemAttribute.map (Option.map ChildNodeAttribute.item)).orElse (.phrase fun k => ?_)
  cases k with
  | sameNameSiblings => exact eases_variant.map ChildNodeAttribute.sameNameSiblings

/-! ## Items -/

theorem eases_typeName : Eases s more readTypeName := by
  refine .taken (p := fun t => t.kind = .identifier) rfl nofun fun {known known' k t} _ ht => ?_
  have hk : k + 1 ≤ s.tokens.length := (List.getElem?_eq_some_iff.1 ht).1
  cases propertyType? t.text with
  | some type => exact .ok (Nat.le_succ k) hk
  | none => exact .parse (Nat.le_refl k) (Scan.getElem?_delivered ht) nofun

theorem eases_propertyType : Eases s more readPropertyType :=
  eases_typeName.orVariant.orSymbol .star (some PropertyType.undefined)

theorem eases_constraints : Eases s more readConstraints := by
  refine (Eases.peek 0).bind fun t => .ite ?_ (.pure none)
  have hmapping : Eases s more atMapping := (Eases.peek 2).bind fun t => .pure _
  exact hmapping.bind fun mapping =>
    .ite (.pure none) (eases_valuesOrVariant.behind .leftAngle)

theorem eases_property : Eases s more readProperty := by
  refine eases_itemName.bind fun name => ?_
  refine ((eases_propertyType.upTo .rightParen).behind .leftParen).bind fun type => ?_
  refine (eases_valuesOrVariant.behind .equals).bind fun defaults => ?_
  refine (eases_propertyAttribute.many offers_propertyAttribute).bind fun attributes => ?_
  exact eases_constraints.bind fun constraints => .pure _

theorem eases_childNode : Eases s more readChildNode := by
  refine eases_itemName.bind fun name => ?_
  refine ((eases_namesOrVariant.upTo .rightParen).behind .leftParen).bind fun types => ?_
  refine (eases_nameOrVariant.behind .equals).bind fun default => ?_
  exact (eases_childNodeAttribute.many offers_childNodeAttribute).map _

theorem eases_item : Eases s more readItem :=
  ((eases_property.behind .minus).map _).orElse ((eases_childNode.behind .plus).map _)

/-! ## Declarations -/

theorem eases_mapping : Eases s more readMapping := by
  refine (Eases.expect .leftAngle).bind fun _ => Eases.text.bind fun key => ?_
  refine (Eases.expect .equals).bind fun _ => Eases.text.bind fun uri => ?_
  exact (Eases.expect .rightAngle).bind fun _ => .pure _

theorem eases_nodeType : Eases s more readNodeType := by
  refine (Eases.expect .leftBracket).bind fun _ => eases_name.bind fun name => ?_
  refine (Eases.expect .rightBracket).bind fun _ => ?_
  refine (eases_namesOrVariant.behind .rightAngle).bind fun supertypes => ?_
  refine (eases_nodeTypeOption.many offers_nodeTypeOption).bind fun options => ?_
  exact (eases_item.many offers_item).map _

theorem eases_declaration : Eases s more readDeclaration := by
  refine (Eases.peek 0).bind fun t => .ite (.pure none) (.ite ?_ ?_)
  · exact eases_mapping.map some
  · exact eases_nodeType.map (some ∘ Declaration.nodeType)

end Cnd.Document
