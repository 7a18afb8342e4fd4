import Cnd.Proofs.Completion.Combinators
import Cnd.Proofs.Grammar.Parts
import Cnd.Proofs.Writing.Declaration

/-!
# The rules of the grammar are prompt

One fact for each rule in the order of the grammar, by the lemmas of its combinators, and before it
how what the rule reads can be written. A rule that looks ahead before it decides blames no token
for that: the rule that it decides for does.
-/

namespace Cnd.Document

open Rule

/-! ## Names -/

theorem fillable_word : Fillable Tree.Word :=
  .spelled (spells_word "a") fun _ => List.forall_mem_nil _

/-- A name without a prefix can always be written. -/
theorem fillable_name : Fillable Tree.Name :=
  .spelled (spells_name "a") fun known => List.forall_mem_singleton.2 fun key hkey => by
    have hnone : prefixOf? "a" = none := by decide
    rw [hnone] at hkey
    cases hkey

theorem prompt_word : Prompt text Tree.Word := .required rfl fillable_word

theorem prompt_name : Prompt readName Tree.Name := by
  refine .checked (@Reads.text fun _ => True) (.required rfl fillable_name) ?_ fillable_name
  intro t context ts e he
  cases hkey : prefixOf? t.text with
  | none =>
    rw [hkey] at he
    cases he
  | some key =>
    rw [hkey] at he
    rcases of_bind_error he with hread | ⟨known, mid, -, hcheck⟩
    · cases hread
    · split at hcheck
      · cases hcheck
      · cases hcheck
        rfl

theorem prompt_itemName : Prompt readItemName Tree.ItemName := prompt_name.orSymbol residualName

theorem prompt_nameOrVariant : Prompt (orVariant readName) (Tree.OrVariant Tree.Name) :=
  prompt_name.orVariant

theorem prompt_namesOrVariant :
    Prompt (orVariant readNames) (Tree.OrVariant (Tree.CommaList Tree.Name)) :=
  ((prompt_name.commaSeparated reads_name).map firsts).orVariant

/-! ## Values -/

/-- A minus that no word is glued to is left where it is. -/
theorem prompt_negative : Prompt readNegative Tree.Negative := by
  refine .of_ne fun {context ts e} he => ?_
  rcases of_bind_error he with hpeek | ⟨sign, mid, -, hsign⟩
  · exact peek_ne_parse hpeek
  · split at hsign
    · rcases of_bind_error hsign with hpeek | ⟨word, mid', -, hword⟩
      · exact peek_ne_parse hpeek
      · split at hword <;> cases hword
    · cases hsign

theorem prompt_value : Prompt readValue Tree.Value :=
  prompt_negative.otherwise (@offers_negative fun _ => True) (prompt_word.map Token.text)

theorem prompt_valuesOrVariant :
    Prompt (orVariant readValues) (Tree.OrVariant (Tree.CommaList Tree.Value)) :=
  (prompt_value.commaSeparated reads_value).orVariant

/-! ## Options and attributes -/

theorem prompt_nodeTypeOption : Prompt readNodeTypeOption Tree.NodeTypeOption := by
  refine .phrase NodeTypeKeyword.ofToken?_eq_some_iff fun k => ?_
  cases k with
  | orderable => exact Prompt.variant.map NodeTypeOption.orderable
  | mixin => exact Prompt.variant.map NodeTypeOption.mixin
  | abstract => exact Prompt.variant.map NodeTypeOption.abstract
  | noQuery => exact .pure _
  | query => exact .pure _
  | primaryItem => exact prompt_nameOrVariant.map NodeTypeOption.primaryItem

theorem prompt_itemAttribute : Prompt readItemAttribute Tree.ItemAttribute := by
  refine .phrase ItemKeyword.ofToken?_eq_some_iff fun k => ?_
  cases k with
  | autocreated => exact Prompt.variant.map ItemAttribute.autocreated
  | mandatory => exact Prompt.variant.map ItemAttribute.mandatory
  | protectedItem => exact Prompt.variant.map ItemAttribute.protectedItem
  | primary => exact .pure _
  | anyVersion => exact (Prompt.expect (c := '?') rfl).map fun _ => ItemAttribute.onParentVersion none
  | onParentVersion => exact .pure _

/-- A list without operators can always be written. -/
theorem fillable_operatorList : Fillable Tree.OperatorList := by
  refine .spelled (spells_operatorList "") fun known => List.forall_mem_singleton.2 ?_
  have hpieces : operatorPieces "" = [""] := by decide +kernel
  intro piece hpiece
  rw [hpieces] at hpiece
  exact .inl (List.mem_singleton.1 hpiece)

theorem prompt_operatorList : Prompt readOperatorList Tree.OperatorList := by
  refine .checked (@Reads.expect (fun _ => True) .string (by decide))
    (.required rfl fillable_operatorList) ?_ fillable_operatorList
  intro t context ts e he
  cases hread : readQueryOperators t.text with
  | ok operators =>
    rw [hread] at he
    cases he
  | error piece =>
    rw [hread] at he
    cases he
    rfl

theorem prompt_propertyAttribute : Prompt readPropertyAttribute Tree.PropertyAttribute := by
  refine (prompt_itemAttribute.map (Option.map PropertyAttribute.item)).orElse
    (offers_itemAttribute.map PropertyAttribute.item) (.phrase PropertyKeyword.ofToken?_eq_some_iff ?_)
  intro k
  cases k with
  | multiple => exact Prompt.variant.map PropertyAttribute.multiple
  | queryOperators => exact prompt_operatorList.orVariant.map PropertyAttribute.queryOperators
  | noFullText => exact Prompt.variant.map PropertyAttribute.noFullText
  | noQueryOrder => exact Prompt.variant.map PropertyAttribute.noQueryOrder

theorem prompt_childNodeAttribute : Prompt readChildNodeAttribute Tree.ChildNodeAttribute := by
  refine (prompt_itemAttribute.map (Option.map ChildNodeAttribute.item)).orElse
    (offers_itemAttribute.map ChildNodeAttribute.item)
    (.phrase ChildNodeKeyword.ofToken?_eq_some_iff ?_)
  intro k
  cases k with
  | sameNameSiblings => exact Prompt.variant.map ChildNodeAttribute.sameNameSiblings

/-! ## Items -/

theorem fillable_typeName : Fillable Tree.TypeName :=
  .spelled (spells_typeName .string) fun _ => List.forall_mem_nil _

theorem prompt_typeName : Prompt readTypeName Tree.TypeName := by
  refine .checked (@Reads.expect (fun _ => True) .identifier (by decide))
    (.required rfl fillable_typeName) ?_ fillable_typeName
  intro t context ts e he
  cases hnamed : propertyType? t.text with
  | some type =>
    rw [hnamed] at he
    cases he
  | none =>
    rw [hnamed] at he
    cases he
    rfl

theorem prompt_propertyType : Prompt readPropertyType Tree.RequiredType :=
  prompt_typeName.orVariant.orSymbol (some PropertyType.undefined)

/-- The look ahead at the third token blames nothing. -/
theorem prompt_constraints :
    Prompt readConstraints (Tree.Symbol .leftAngle × Tree.OrVariant (Tree.CommaList Tree.Value)) := by
  intro context ts e he
  rcases of_bind_error he with hpeek | ⟨t, mid, hpeek, hfront⟩
  · exact absurd hpeek peek_ne_parse
  obtain ⟨rfl, -⟩ := of_peek_ok hpeek
  split at hfront
  · rcases of_bind_error hfront with hahead | ⟨mapping, mid, hahead, hlist⟩
    · rcases of_bind_error hahead with hthird | ⟨u, mid, -, hpure⟩
      · exact absurd hthird peek_ne_parse
      · cases hpure
    · obtain ⟨u, mid', hthird, hpure⟩ := of_bind_ok hahead
      obtain ⟨rfl, -⟩ := of_peek_ok hthird
      obtain ⟨-, rfl⟩ := of_pure_ok hpure
      split at hlist
      · cases hlist
      · exact prompt_valuesOrVariant.behind hlist
  · cases hfront

theorem prompt_property : Prompt readProperty Tree.Property := by
  refine prompt_itemName.bind (@reads_itemName fun _ => True) (fun name => ?_)
    (.prod .option (.prod .option (.prod .list .option)))
  refine (prompt_propertyType.upTo (c := ')') rfl (@reads_propertyType fun _ => True)).behind.option.bind
    offers_requiredType.option (fun type => ?_) (.prod .option (.prod .list .option))
  refine prompt_valuesOrVariant.behind.option.bind offers_defaultValues.option (fun defaults => ?_)
    (.prod .list .option)
  refine (prompt_propertyAttribute.many offers_propertyAttribute).bind reads_propertyAttributes
    (fun attributes => ?_) .option
  rw [bind_pure_comp]
  exact prompt_constraints.option.map _

theorem prompt_childNode : Prompt readChildNode Tree.ChildNode := by
  refine prompt_itemName.bind (@reads_itemName fun _ => True) (fun name => ?_)
    (.prod .option (.prod .option .list))
  refine (prompt_namesOrVariant.upTo (c := ')') rfl reads_namesOrVariant).behind.option.bind
    offers_requiredPrimaryTypes.option (fun types => ?_) (.prod .option .list)
  refine prompt_nameOrVariant.behind.option.bind offers_defaultPrimaryType.option (fun default => ?_)
    .list
  rw [bind_pure_comp]
  exact (prompt_childNodeAttribute.many offers_childNodeAttribute).map _

theorem prompt_item : Prompt readItem Tree.Item :=
  (prompt_property.behind.map _).orElse
    ((Offers.behind (by decide : Token.Kind.minus ≠ .eof) reads_property).map
      ItemDeclaration.property)
    (prompt_childNode.behind.map _)

/-! ## Declarations -/

theorem prompt_mapping : Prompt readMapping Tree.Mapping := by
  have hclose : Fillable (Tree.Symbol .rightAngle) := .symbol (c := '>') rfl
  have hequals : Fillable (Tree.Symbol .equals) := .symbol (c := '=') rfl
  refine (Prompt.expect (c := '<') rfl).bind (@Reads.expect (fun _ => True) _ (by decide))
    (fun _ => ?_) (.prod fillable_word (.prod hequals (.prod fillable_word hclose)))
  refine prompt_word.bind (@Reads.text fun _ => True) (fun key => ?_)
    (.prod hequals (.prod fillable_word hclose))
  refine (Prompt.expect (c := '=') rfl).bind (@Reads.expect (fun _ => True) _ (by decide))
    (fun _ => ?_) (.prod fillable_word hclose)
  refine prompt_word.bind (@Reads.text fun _ => True) (fun uri => ?_) hclose
  rw [bind_pure_comp]
  exact (Prompt.expect (c := '>') rfl).map _

theorem prompt_nodeType : Prompt readNodeType Tree.NodeType := by
  have hclose : Fillable (Tree.Symbol .rightBracket) := .symbol (c := ']') rfl
  refine (Prompt.expect (c := '[') rfl).bind (@Reads.expect (fun _ => True) _ (by decide))
    (fun _ => ?_) (.prod fillable_name (.prod hclose (.prod .option (.prod .list .list))))
  refine prompt_name.bind (@reads_name fun _ => True) (fun name => ?_)
    (.prod hclose (.prod .option (.prod .list .list)))
  refine (Prompt.expect (c := ']') rfl).bind (@Reads.expect (fun _ => True) _ (by decide))
    (fun _ => ?_) (.prod .option (.prod .list .list))
  refine prompt_namesOrVariant.behind.option.bind offers_supertypes.option (fun supertypes => ?_)
    (.prod .list .list)
  refine (prompt_nodeTypeOption.many offers_nodeTypeOption).bind reads_nodeTypeOptions
    (fun options => ?_) .list
  rw [bind_pure_comp]
  exact (prompt_item.many offers_item).map _

theorem prompt_declaration : Prompt readDeclaration Tree.Declaration := by
  intro context ts e he
  rcases of_bind_error he with hpeek | ⟨t, mid, hpeek, hfront⟩
  · exact absurd hpeek peek_ne_parse
  obtain ⟨rfl, -⟩ := of_peek_ok hpeek
  split at hfront
  · cases hfront
  split at hfront
  · exact (prompt_mapping.map some).inl hfront
  · exact (prompt_nodeType.map (some ∘ Declaration.nodeType)).inr hfront

end Cnd.Document
