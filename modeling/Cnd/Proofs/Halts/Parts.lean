import Cnd.Proofs.Halts.Combinators
import Cnd.Proofs.Lookahead.Parts

/-!
# Where the rules of the grammar halt

One fact for each rule in the order of the grammar. Only with the constraints of a property a tree
may end early, where a `<` begins a mapping after all; the rules for items and node types hand that
on from one to the next.
-/

namespace Cnd.Document

open Rule

variable {early : List Token → Prop}

/-! ## Names and values -/

instance : Nonempty Tree.Word := ⟨⟨⟨.identifier, none, .start⟩, .inr rfl⟩⟩

instance : Nonempty Tree.Name := ⟨⟨Classical.ofNonempty⟩⟩

/-- What is known of a prefix does not depend on what stands behind the name. -/
theorem closed_name : Closed readName := by
  refine Closed.text.bind fun t => ?_
  cases prefixOf? t.text with
  | none => exact .pure t.text
  | some key =>
    intro ending more p known ts left x hx
    have hread (ending : Except ScanError Position) (ts : List Token) :
        (MonadReader.read : Rule Context) ⟨ending, known⟩ ts = .ok (⟨ending, known⟩, ts) := rfl
    dsimp only at hx ⊢
    rw [bind_ok (hread _ _)] at hx ⊢
    by_cases hkey : key ∈ known
    · rw [if_pos hkey] at hx ⊢
      exact Closed.pure t.text ending more hx
    · rw [if_neg hkey] at hx
      cases hx

theorem halts_name : Halts early readName Tree.Name := closed_name.halts

theorem halts_itemName : Halts early readItemName Tree.ItemName := halts_name.orSymbol residualName

theorem halts_nameOrVariant : Halts early (orVariant readName) (Tree.OrVariant Tree.Name) :=
  halts_name.orVariant

theorem halts_namesOrVariant :
    Halts nowhere (orVariant readNames) (Tree.OrVariant (Tree.CommaList Tree.Name)) :=
  ((halts_name.commaSeparated reads_name).map firsts).orVariant

/-- Two tokens decide whether a negative number is read. -/
theorem negative_pair (context : Context) (sign word : Token) (ts : List Token) :
    readNegative context (sign :: word :: ts) =
      if sign.kind = .minus ∧ word.kind = .identifier ∧
          word.position.offset = sign.position.offset + 1
        then .ok (some ("-" ++ word.text), ts) else .ok (none, sign :: word :: ts) := by
  have hfront : peek 0 context (sign :: word :: ts) = .ok (sign, sign :: word :: ts) := rfl
  have hnext : peek 1 context (sign :: word :: ts) = .ok (word, sign :: word :: ts) := rfl
  rw [readNegative, bind_ok hfront]
  by_cases hsign : sign.kind = .minus
  · rw [if_pos hsign, bind_ok hnext]
    by_cases hglued : word.kind = .identifier ∧ word.position.offset = sign.position.offset + 1
    · rw [if_pos hglued, if_pos ⟨hsign, hglued⟩]
      rfl
    · rw [if_neg hglued, if_neg fun h => hglued h.2]
      rfl
  · rw [if_neg hsign, if_neg fun h => hsign h.1]
    rfl

/-- A minus at the end may go on with a word that is glued to it. -/
theorem halts_negative : Halts early readNegative Tree.Negative := by
  intro ending u rest p known ts left x hx
  rcases ts with _ | ⟨sign, _ | ⟨word, ts⟩⟩
  · cases hx
    by_cases hu : u.kind = .minus
    · let word : Token := ⟨.identifier, none, ⟨1, 1, u.position.offset + 1⟩⟩
      exact .inr (.begins (⟨⟨u, hu⟩, ⟨word, rfl⟩, rfl⟩ : Tree.Negative) rfl)
    · have hfront : peek 0 ⟨ending, known⟩ (u :: rest) = .ok (u, u :: rest) := rfl
      rw [List.nil_append, readNegative, bind_ok hfront, if_neg hu]
      exact .inl rfl
  · have hnone : readNegative ⟨.ok p, known⟩ [sign] = .ok (none, [sign]) := by
      rw [readNegative, bind_ok (rfl : peek 0 _ [sign] = .ok (sign, [sign]))]
      split <;> rfl
    cases hnone.symm.trans hx
    rw [List.singleton_append, negative_pair]
    split
    · rename_i h
      exact .inr (.on (⟨⟨sign, h.1⟩, ⟨u, h.2.1⟩, h.2.2⟩ : Tree.Negative) ⟨[], rfl⟩)
    · exact .inl rfl
  · rw [negative_pair] at hx
    rw [List.cons_append, List.cons_append, negative_pair]
    split at hx
    · rename_i h
      cases hx
      exact .inl (if_pos h)
    · rename_i h
      cases hx
      exact .inl (if_neg h)

theorem halts_value : Halts early readValue Tree.Value :=
  halts_negative.otherwise (@offers_negative fun _ => True) (Closed.text.map Token.text).halts

theorem halts_valuesOrVariant :
    Halts nowhere (orVariant readValues) (Tree.OrVariant (Tree.CommaList Tree.Value)) :=
  (halts_value.commaSeparated reads_value).orVariant

/-! ## Options and attributes -/

instance : (k : NodeTypeKeyword) → Nonempty k.Argument
  | .orderable | .mixin | .abstract => inferInstanceAs (Nonempty Tree.Mark)
  | .noQuery | .query => inferInstanceAs (Nonempty Unit)
  | .primaryItem => inferInstanceAs (Nonempty (Tree.OrVariant Tree.Name))

theorem halts_nodeTypeOption : Halts early readNodeTypeOption Tree.NodeTypeOption := by
  refine .phrase NodeTypeKeyword.ofToken?_eq_some_iff fun k => ?_
  cases k with
  | orderable => exact Halts.variant.map NodeTypeOption.orderable
  | mixin => exact Halts.variant.map NodeTypeOption.mixin
  | abstract => exact Halts.variant.map NodeTypeOption.abstract
  | noQuery => exact .pure _
  | query => exact .pure _
  | primaryItem => exact halts_nameOrVariant.map NodeTypeOption.primaryItem

instance : (k : ItemKeyword) → Nonempty k.Argument
  | .autocreated | .mandatory | .protectedItem => inferInstanceAs (Nonempty Tree.Mark)
  | .anyVersion => inferInstanceAs (Nonempty (Tree.Symbol .question))
  | .primary | .onParentVersion _ => inferInstanceAs (Nonempty Unit)

theorem halts_itemAttribute : Halts early readItemAttribute Tree.ItemAttribute := by
  refine .phrase ItemKeyword.ofToken?_eq_some_iff fun k => ?_
  cases k with
  | autocreated => exact Halts.variant.map ItemAttribute.autocreated
  | mandatory => exact Halts.variant.map ItemAttribute.mandatory
  | protectedItem => exact Halts.variant.map ItemAttribute.protectedItem
  | primary => exact .pure _
  | anyVersion =>
    exact ((Closed.expect .question).map fun _ => ItemAttribute.onParentVersion none).halts
  | onParentVersion => exact .pure _

theorem closed_operatorList : Closed readOperatorList := by
  refine (Closed.expect .string).bind fun t => ?_
  cases readQueryOperators t.text with
  | ok operators => exact .pure operators
  | error piece => exact .fail _ t

instance : (k : PropertyKeyword) → Nonempty k.Argument
  | .multiple | .noFullText | .noQueryOrder => inferInstanceAs (Nonempty Tree.Mark)
  | .queryOperators => inferInstanceAs (Nonempty (Tree.Symbol .question ⊕ Tree.OperatorList))

theorem halts_propertyAttribute : Halts early readPropertyAttribute Tree.PropertyAttribute := by
  refine (halts_itemAttribute.map (Option.map PropertyAttribute.item)).orElse
    (offers_itemAttribute.map PropertyAttribute.item)
    (.phrase PropertyKeyword.ofToken?_eq_some_iff ?_)
  intro k
  cases k with
  | multiple => exact Halts.variant.map PropertyAttribute.multiple
  | queryOperators =>
    exact closed_operatorList.halts.orVariant.map PropertyAttribute.queryOperators
  | noFullText => exact Halts.variant.map PropertyAttribute.noFullText
  | noQueryOrder => exact Halts.variant.map PropertyAttribute.noQueryOrder

instance : (k : ChildNodeKeyword) → Nonempty k.Argument
  | .sameNameSiblings => inferInstanceAs (Nonempty Tree.Mark)

theorem halts_childNodeAttribute : Halts early readChildNodeAttribute Tree.ChildNodeAttribute := by
  refine (halts_itemAttribute.map (Option.map ChildNodeAttribute.item)).orElse
    (offers_itemAttribute.map ChildNodeAttribute.item)
    (.phrase ChildNodeKeyword.ofToken?_eq_some_iff ?_)
  intro k
  cases k with
  | sameNameSiblings => exact Halts.variant.map ChildNodeAttribute.sameNameSiblings

/-! ## Items -/

theorem closed_typeName : Closed readTypeName := by
  refine (Closed.expect .identifier).bind fun t => ?_
  cases propertyType? t.text with
  | some type => exact .pure type
  | none => exact .fail _ t

theorem halts_propertyType : Halts early readPropertyType Tree.RequiredType :=
  closed_typeName.halts.orVariant.orSymbol (some PropertyType.undefined)

theorem atMapping_of_getElem? {context : Context} {ts : List Token} {third : Token}
    (h : ts[2]? = some third) :
    atMapping context ts = .ok (decide (third.kind = .equals), ts) := by
  rw [atMapping, bind_ok (peek_of_getElem? h)]
  rfl

/-- Constraints have a token behind their `<`. -/
theorem ne_nil_of_constraints {context : Context} {angle : Token} {ts left : List Token}
    {o : Option (Option (List String))} (hangle : angle.kind = .leftAngle)
    (h : behind .leftAngle (orVariant readValues) context (angle :: ts) = .ok (o, left)) :
    ts ≠ [] := by
  rw [Rule.behind, bind_ok (accept_take hangle (by decide)), if_pos rfl] at h
  obtain ⟨c, mid, hc, -⟩ := of_bind_ok h
  obtain ⟨y, rfl, -, -⟩ := reads_valuesOrVariant.derives hc
  exact List.append_ne_nil_of_left_ne_nil
    ((begins_orVariant begins_value.prod).tokens_ne_nil y) mid

/-- A `<` with one token behind it may begin a mapping, if an `=` follows. -/
theorem halts_constraints :
    Halts OpensMapping readConstraints
      (Option (Tree.Symbol .leftAngle × Tree.OrVariant (Tree.CommaList Tree.Value))) := by
  intro ending u rest p known ts left x hx
  rw [readConstraints] at hx ⊢
  rcases ts with _ | ⟨angle, ts⟩
  · rw [bind_ok (peek_ok rfl 0 []), if_neg (by simp [Token.atEnd])] at hx
    obtain ⟨rfl, rfl⟩ := of_pure_ok hx
    by_cases hu : u.kind = .leftAngle
    · let mark : Tree.Symbol .question := ⟨⟨.question, none, .start⟩, rfl⟩
      exact .inr (.begins (some (⟨u, hu⟩, .inl mark)) rfl)
    · have hpeek : peek 0 ⟨ending, known⟩ (u :: rest) = .ok (u, u :: rest) := rfl
      rw [List.nil_append, bind_ok hpeek, if_neg hu]
      exact .inl rfl
  have hpeek (context : Context) (ts : List Token) :
      peek 0 context (angle :: ts) = .ok (angle, angle :: ts) := rfl
  rw [bind_ok (hpeek _ _)] at hx
  rw [List.cons_append, bind_ok (hpeek _ _)]
  by_cases hangle : angle.kind = .leftAngle
  · rw [if_pos hangle] at hx ⊢
    by_cases hopens : OpensMapping (angle :: (ts ++ u :: rest))
    · exact .inr (.early none (angle :: ts) rfl (List.cons_ne_nil _ _) hopens)
    -- No mapping begins here, so none begins at the end of the text either.
    obtain ⟨mapping, hmapping, hiff⟩ :=
      atMapping_ok (rfl : Context.ending ⟨.ok p, known⟩ = .ok p) (angle :: ts)
    have hnot : ¬ mapping := by
      intro h
      obtain ⟨v, hv, hequals⟩ := hiff.1 h
      refine hopens ⟨⟨angle, rfl, hangle⟩, v, ?_, hequals⟩
      rw [← List.cons_append]
      exact List.getElem?_append_left (List.getElem?_eq_some_iff.1 hv).1 ▸ hv
    rw [bind_ok hmapping, if_neg hnot] at hx
    -- The list has taken a token, so the third one is not far.
    obtain ⟨w, ts, rfl⟩ := List.exists_cons_of_ne_nil (ne_nil_of_constraints hangle hx)
    obtain ⟨third, hthird⟩ : ∃ third, (angle :: (w :: ts ++ u :: rest))[2]? = some third := by
      cases ts with
      | nil => exact ⟨u, rfl⟩
      | cons v ts => exact ⟨v, rfl⟩
    have hfalse := @atMapping_of_getElem? ⟨ending, known⟩ _ _ hthird
    rw [decide_eq_false fun h => hopens ⟨⟨angle, rfl, hangle⟩, third, hthird, h⟩] at hfalse
    rw [bind_ok hfalse, if_neg Bool.false_ne_true]
    exact (halts_valuesOrVariant.behind ending u rest hx).imp_right fun hturns =>
      (hturns.wrap some fun _ => rfl).anywhere
  · rw [if_neg hangle] at hx ⊢
    cases hx
    exact .inl rfl

theorem halts_property : Halts OpensMapping readProperty Tree.Property := by
  refine halts_itemName.bind (@reads_itemName fun _ => True) fun name => ?_
  refine (halts_propertyType.upTo (@reads_propertyType fun _ => True)).behind.option.bind
    offers_requiredType.option fun type => ?_
  refine halts_valuesOrVariant.behind.option.bind offers_defaultValues.option fun defaults => ?_
  refine (halts_propertyAttribute.many offers_propertyAttribute).bind reads_propertyAttributes
    fun attributes => ?_
  rw [bind_pure_comp]
  exact halts_constraints.map _

theorem halts_childNode : Halts early readChildNode Tree.ChildNode := by
  refine halts_itemName.bind (@reads_itemName fun _ => True) fun name => ?_
  refine (halts_namesOrVariant.upTo reads_namesOrVariant).behind.option.bind
    offers_requiredPrimaryTypes.option fun types => ?_
  refine halts_nameOrVariant.behind.option.bind offers_defaultPrimaryType.option fun default => ?_
  rw [bind_pure_comp]
  exact (halts_childNodeAttribute.many offers_childNodeAttribute).map _

theorem halts_item : Halts OpensMapping readItem Tree.Item :=
  (halts_property.behind.map _).orElse
    ((Offers.behind (by decide : Token.Kind.minus ≠ .eof) reads_property).map
      ItemDeclaration.property)
    (halts_childNode.behind.map _)

/-! ## Declarations -/

theorem closed_mapping : Closed readMapping := by
  refine (Closed.expect .leftAngle).bind fun _ => Closed.text.bind fun key => ?_
  refine (Closed.expect .equals).bind fun _ => Closed.text.bind fun uri => ?_
  exact (Closed.expect .rightAngle).bind fun _ => .pure _

theorem halts_nodeType : Halts OpensMapping readNodeType Tree.NodeType := by
  refine .closed_bind (@Reads.expect (fun _ => True) _ (by decide)) (.expect .leftBracket)
    fun _ => ?_
  refine .closed_bind (@reads_name fun _ => True) closed_name fun name => ?_
  refine .closed_bind (@Reads.expect (fun _ => True) _ (by decide)) (.expect .rightBracket)
    fun _ => ?_
  refine halts_namesOrVariant.behind.option.bind offers_supertypes.option fun supertypes => ?_
  refine (halts_nodeTypeOption.many offers_nodeTypeOption).bind reads_nodeTypeOptions
    fun options => ?_
  rw [bind_pure_comp]
  exact (halts_item.many offers_item).map _

end Cnd.Document
