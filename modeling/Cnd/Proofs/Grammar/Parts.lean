import Cnd.Proofs.Grammar.Combinators
import Cnd.Proofs.Grammar.Keyword

/-!
# The rules of the grammar

One fact for each rule in the order of the grammar: names and values, options and attributes,
items, declarations. What may come behind a part is what its productions can begin with; only
behind a property it takes three tokens to tell.
-/

namespace Cnd.Document

open Rule

variable {follow : List Token → Prop} {known : List String} {rest : List Token}

/-! ## Names -/

theorem begins_word : Begins Tree.Word [.string, .identifier] :=
  fun t => ⟨t.1, [], rfl, by simpa using t.2⟩

theorem begins_name : Begins Tree.Name [.string, .identifier] := fun n => begins_word n.word

@[simp] theorem met_name {n : Tree.Name} :
    Met known n ↔ (Condition.name (Tree.name n)).Holds known := by
  rw [Met]
  exact List.forall_mem_singleton

theorem reads_name : Reads readName Tree.name follow := by
  refine Reads.text.checked Tree.Name.mk (fun n => ⟨n.word, rfl⟩) (fun _ => rfl) ?_
  intro t context rest
  have hmet : Met context.prefixes (Tree.Name.mk t) ↔
      ∀ key, prefixOf? t.1.text = some key → key ∈ context.prefixes := met_name
  cases hprefix : prefixOf? t.1.text with
  | none => exact .accepted (by simp [hmet, hprefix])
  | some key =>
    have hread : (MonadReader.read : Rule Context) context rest = .ok (context, rest) := rfl
    refine .of_ok hread ?_
    by_cases hkey : key ∈ context.prefixes
    · rw [if_pos hkey]
      exact .accepted (by simp [hmet, hprefix, hkey])
    · rw [if_neg hkey]
      exact .refused (by simp [hmet, hprefix, hkey]) (.inl ⟨key, rfl⟩)

theorem reads_itemName : Reads readItemName Tree.itemName follow :=
  (reads_name.orSymbol (by decide) residualName fun n _ =>
    (begins_name.ahead n).clear (by decide)).congr (by rintro (t | n) <;> rfl)

theorem reads_names : Reads readNames Tree.names (Clear [.comma]) :=
  (reads_name.commaSeparated.map firsts).congr fun _ => rfl

theorem begins_orVariant {α : Type} [Phrase α] {kinds : List Token.Kind} (h : Begins α kinds) :
    Begins (Tree.OrVariant α) (.question :: kinds) :=
  (Begins.symbol .question).sum h

/-- A name, or the variant mark in its place. -/
theorem reads_nameOrVariant :
    Reads (orVariant readName) (Tree.orVariant Tree.name) follow :=
  reads_name.orVariant fun n _ => (begins_name.ahead n).clear (by decide)

/-- A list of names, or the variant mark in its place. -/
theorem reads_namesOrVariant :
    Reads (orVariant readNames) (Tree.orVariant Tree.names) (Clear [.comma]) :=
  reads_names.orVariant fun l _ => (begins_name.prod.ahead l).clear (by decide)

/-! ## Values -/

theorem begins_negative : Begins Tree.Negative [.minus] :=
  fun n => ⟨n.sign.1, [n.word.1], rfl, by simp [n.sign.2]⟩

theorem begins_value : Begins Tree.Value [.minus, .string, .identifier] :=
  begins_negative.sum begins_word

theorem offers_negative :
    Offers readNegative (fun n : Tree.Negative => "-" ++ n.word.1.text) follow
      (Clear [.minus]) where
  settles := by
    intro context p rest x hend _
    obtain ⟨⟨sign, hsign⟩, ⟨word, hword⟩, hglued⟩ := x
    have hfront : (sign :: word :: rest)[0]? = some sign := rfl
    have hbehind : (sign :: word :: rest)[1]? = some word := rfl
    refine .of_ok (peek_of_getElem? hfront) ?_
    rw [if_pos hsign]
    refine .of_ok (peek_of_getElem? hbehind) ?_
    rw [if_pos ⟨hword, hglued⟩]
    exact .accepted (List.forall_mem_nil _)
  stops := by
    intro context p ts hend hts
    rw [readNegative, bind_ok (peek_ok hend 0 ts), if_neg]
    · rfl
    · cases ts with
      | nil => simp [Token.atEnd]
      | cons t ts => exact hts.head_ne t rfl
  derives := by
    intro context ts rest o ho
    obtain ⟨sign, mid, hpeek, hmid⟩ := of_bind_ok ho
    obtain ⟨rfl, -⟩ := of_peek_ok hpeek
    by_cases hsign : sign.kind = .minus
    · rw [if_pos hsign] at hmid
      have hfront := getElem?_of_peek_ok hpeek (by simp [hsign])
      obtain ⟨word, mid', hpeek', hmid'⟩ := of_bind_ok hmid
      obtain ⟨rfl, -⟩ := of_peek_ok hpeek'
      by_cases hword : word.kind = .identifier ∧ word.position.offset = sign.position.offset + 1
      · rw [if_pos hword] at hmid'
        have hbehind := getElem?_of_peek_ok hpeek' (by simp [hword.1])
        rcases ts with _ | ⟨t, _ | ⟨u, ts⟩⟩
        · simp at hfront
        · simp at hbehind
        · cases hfront
          cases hbehind
          cases hmid'
          exact ⟨some ⟨⟨sign, hsign⟩, ⟨word, hword.1⟩, hword.2⟩, rfl, rfl, List.forall_mem_nil _⟩
      · rw [if_neg hword] at hmid'
        obtain ⟨rfl, rfl⟩ := of_pure_ok hmid'
        exact ⟨none, rfl, rfl, met_none⟩
    · rw [if_neg hsign] at hmid
      obtain ⟨rfl, rfl⟩ := of_pure_ok hmid
      exact ⟨none, rfl, rfl, met_none⟩
  determined := by
    intro m n r s _ _ heq
    obtain ⟨⟨sign, hsign⟩, ⟨word, hword⟩, hglued⟩ := m
    obtain ⟨⟨sign', hsign'⟩, ⟨word', hword'⟩, hglued'⟩ := n
    cases heq
    exact ⟨rfl, rfl⟩
  apart := by
    intro n r s _ hs heq
    subst heq
    exact hs n.sign.1 rfl (by simp [n.sign.2])
  nonempty _ := List.cons_ne_nil _ _

theorem reads_value : Reads readValue Tree.value follow :=
  (Reads.otherwise offers_negative (Reads.text.map Token.text)
    fun w _ => (begins_word.ahead w).clear (by decide)).congr (by rintro (n | w) <;> rfl)

theorem reads_values : Reads readValues Tree.values (Clear [.comma]) := reads_value.commaSeparated

/-- A list of values, or the variant mark in its place. -/
theorem reads_valuesOrVariant :
    Reads (orVariant readValues) (Tree.orVariant Tree.values) (Clear [.comma]) :=
  reads_values.orVariant fun l _ => (begins_value.prod.ahead l).clear (by decide)

/-! ## Options and attributes -/

theorem begins_phrase {κ : Type} {words : κ → List String} {symbols : κ → List Token.Kind}
    {A : κ → Type} [∀ k, Phrase (A k)] {kinds : List Token.Kind}
    (h : ∀ k, .identifier :: symbols k ⊆ kinds) :
    Begins (Σ k, Tree.Lead (words k) (symbols k) × A k) kinds :=
  fun ⟨k, t, a⟩ => ⟨t.1, tokens a, rfl, h k (kind_of_lead t.2)⟩

/-- In front of a token of another kind a phrase is not read. -/
theorem eq_none_of_clear {κ : Type} {f : Token → Option κ} {kinds : List Token.Kind}
    (h : ∀ {t k}, f t = some k → t.kind ∈ kinds) (hrest : Clear kinds rest) :
    ∀ t ∈ rest.head?, f t = none := by
  intro t ht
  cases hk : f t with
  | none => rfl
  | some k => exact absurd (h hk) (hrest t ht)

/-- No phrase begins with the end of the text. -/
theorem ne_eof_of_phrase {κ : Type} {f : Token → Option κ} {kinds : List Token.Kind}
    (h : ∀ {t k}, f t = some k → t.kind ∈ kinds) (hkinds : .eof ∉ kinds) {t : Token} {k : κ}
    (hk : f t = some k) : t.kind ≠ .eof := by
  intro heof
  exact hkinds (heof ▸ h hk)

theorem offers_nodeTypeOption :
    Offers readNodeTypeOption Tree.nodeTypeOption (Clear [.question])
      (Clear [.identifier, .bang]) := by
  refine (Offers.phrase NodeTypeKeyword.ofToken?_eq_some_iff
    (ne_eof_of_phrase NodeTypeKeyword.kind_of_ofToken? (by decide)) fun k l => ?_).mono id
    (eq_none_of_clear NodeTypeKeyword.kind_of_ofToken?)
  cases k with
  | orderable => exact Reads.variant.map NodeTypeOption.orderable
  | mixin => exact Reads.variant.map NodeTypeOption.mixin
  | abstract => exact Reads.variant.map NodeTypeOption.abstract
  | noQuery => exact Reads.pure _
  | query => exact Reads.pure _
  | primaryItem => exact reads_nameOrVariant.map NodeTypeOption.primaryItem

theorem offers_itemAttribute :
    Offers readItemAttribute Tree.itemAttribute (Clear [.question])
      fun ts => ∀ t ∈ ts.head?, ItemKeyword.ofToken? t = none := by
  refine Offers.phrase ItemKeyword.ofToken?_eq_some_iff
    (ne_eof_of_phrase ItemKeyword.kind_of_ofToken? (by decide)) fun k l => ?_
  cases k with
  | autocreated => exact Reads.variant.map ItemAttribute.autocreated
  | mandatory => exact Reads.variant.map ItemAttribute.mandatory
  | protectedItem => exact Reads.variant.map ItemAttribute.protectedItem
  | primary => exact Reads.pure _
  | anyVersion => exact (Reads.expect (by decide)).map fun _ => ItemAttribute.onParentVersion none
  | onParentVersion => exact Reads.pure _

@[simp] theorem met_operatorList {o : Tree.OperatorList} :
    Met known o ↔ (Condition.operators o.word.1.text).Holds known := by
  rw [Met]
  exact List.forall_mem_singleton

theorem begins_operatorList : Begins Tree.OperatorList [.string] :=
  fun o => ⟨o.word.1, [], rfl, by simp [o.word.2]⟩

theorem reads_operatorList : Reads readOperatorList Tree.operatorList follow := by
  refine (Reads.expect (by decide)).checked Tree.OperatorList.mk (fun o => ⟨o.word, rfl⟩)
    (fun _ => rfl) ?_
  intro t context rest
  rw [met_operatorList]
  cases hread : readQueryOperators t.1.text with
  | ok operators =>
    obtain ⟨hholds, rfl⟩ := readQueryOperators_eq_ok_iff.1 hread
    exact .accepted hholds
  | error piece =>
    -- The condition says that all pieces can be read, and one of them was not.
    refine .refused (fun hholds => ?_) (.inr ⟨piece, rfl⟩)
    cases hread.symm.trans (readQueryOperators_eq_ok_iff.2 ⟨hholds, rfl⟩)

theorem offers_propertyPhrase :
    Offers readPropertyPhrase (fun x => Tree.propertyAttribute (.inr x)) (Clear [.question])
      fun ts => ∀ t ∈ ts.head?, PropertyKeyword.ofToken? t = none := by
  refine Offers.phrase PropertyKeyword.ofToken?_eq_some_iff
    (ne_eof_of_phrase PropertyKeyword.kind_of_ofToken? (by decide)) fun k l => ?_
  cases k with
  | multiple => exact Reads.variant.map PropertyAttribute.multiple
  | queryOperators =>
    exact (reads_operatorList.orVariant fun o _ =>
      (begins_operatorList.ahead o).clear (by decide)).map PropertyAttribute.queryOperators
  | noFullText => exact Reads.variant.map PropertyAttribute.noFullText
  | noQueryOrder => exact Reads.variant.map PropertyAttribute.noQueryOrder

theorem offers_propertyAttribute :
    Offers readPropertyAttribute Tree.propertyAttribute (Clear [.question])
      (Clear [.identifier, .bang, .star]) := by
  have h := (offers_itemAttribute.map PropertyAttribute.item).orElse offers_propertyPhrase (by
    intro x rest t ht
    obtain ⟨k, lead, a⟩ := x
    cases ht
    exact PropertyKeyword.itemKeyword_eq_none lead.2)
  refine (h.mono id fun hrest => ⟨?_, ?_⟩).congr (by rintro (a | a) <;> rfl)
  · exact eq_none_of_clear ItemKeyword.kind_of_ofToken? (hrest.mono (by decide))
  · exact eq_none_of_clear PropertyKeyword.kind_of_ofToken? (hrest.mono (by decide))

theorem offers_childNodePhrase :
    Offers readChildNodePhrase (fun x => Tree.childNodeAttribute (.inr x)) (Clear [.question])
      fun ts => ∀ t ∈ ts.head?, ChildNodeKeyword.ofToken? t = none := by
  refine Offers.phrase ChildNodeKeyword.ofToken?_eq_some_iff
    (ne_eof_of_phrase ChildNodeKeyword.kind_of_ofToken? (by decide)) fun k l => ?_
  cases k with
  | sameNameSiblings => exact Reads.variant.map ChildNodeAttribute.sameNameSiblings

theorem offers_childNodeAttribute :
    Offers readChildNodeAttribute Tree.childNodeAttribute (Clear [.question])
      (Clear [.identifier, .bang, .star]) := by
  have h := (offers_itemAttribute.map ChildNodeAttribute.item).orElse offers_childNodePhrase (by
    intro x rest t ht
    obtain ⟨k, lead, a⟩ := x
    cases ht
    exact ChildNodeKeyword.itemKeyword_eq_none lead.2)
  refine (h.mono id fun hrest => ⟨?_, ?_⟩).congr (by rintro (a | a) <;> rfl)
  · exact eq_none_of_clear ItemKeyword.kind_of_ofToken? (hrest.mono (by decide))
  · exact eq_none_of_clear ChildNodeKeyword.kind_of_ofToken? (hrest.mono (by decide))

theorem begins_itemAttribute : Begins Tree.ItemAttribute [.identifier, .bang] :=
  begins_phrase (by rintro (_ | _) <;> simp [ItemKeyword.symbols])

theorem begins_propertyAttribute :
    Begins Tree.PropertyAttribute [.identifier, .bang, .identifier, .star] :=
  begins_itemAttribute.sum (begins_phrase (by rintro (_ | _) <;> decide))

theorem begins_childNodeAttribute :
    Begins Tree.ChildNodeAttribute [.identifier, .bang, .identifier, .star] :=
  begins_itemAttribute.sum (begins_phrase (by rintro (_ | _); decide))

/-! ## Types and constraints -/

theorem begins_typeName : Begins Tree.TypeName [.identifier] :=
  fun t => ⟨t.word.1, [], rfl, by simp [t.word.2]⟩

theorem reads_typeName : Reads readTypeName Tree.TypeName.type follow where
  settles := by
    intro context p rest x hend hrest
    obtain ⟨word, type, hnamed⟩ := x
    refine (((Reads.expect (by decide)).settles word hend hrest).bind
      (?_ : Settles True type rest _)).congr ?_
    · rw [propertyType?_eq_some_iff.2 hnamed]
      exact .accepted trivial
    · exact (and_iff_left trivial).trans (iff_of_true (met_subtype word) (List.forall_mem_nil _))
  derives := by
    intro context ts rest type htype
    obtain ⟨t, mid, ht, hmid⟩ := of_bind_ok htype
    obtain ⟨word, rfl, rfl, -⟩ := (@Reads.expect follow .identifier (by decide)).derives ht
    cases hnamed : propertyType? word.1.text with
    | none =>
      rw [hnamed] at hmid
      cases hmid
    | some named =>
      rw [hnamed] at hmid
      obtain ⟨rfl, rfl⟩ := of_pure_ok hmid
      exact ⟨⟨word, named, propertyType?_eq_some_iff.1 hnamed⟩, rfl, rfl, List.forall_mem_nil _⟩
  determined := by
    intro x y r s _ _ heq
    obtain ⟨word, type, hnamed⟩ := x
    obtain ⟨word', type', hnamed'⟩ := y
    obtain ⟨hword, rfl⟩ := List.cons.inj heq
    obtain rfl : word = word' := Subtype.ext hword
    -- A word names at most one type.
    rw [← propertyType?_eq_some_iff] at hnamed hnamed'
    obtain rfl := Option.some.inj (hnamed.symm.trans hnamed')
    exact ⟨rfl, rfl⟩

theorem reads_propertyType : Reads readPropertyType Tree.requiredType follow := by
  have hname : Reads (orVariant readTypeName) (Tree.orVariant Tree.TypeName.type) follow :=
    reads_typeName.orVariant fun t _ => (begins_typeName.ahead t).clear (by decide)
  have hstar := hname.orSymbol (by decide : Token.Kind.star ≠ .eof) (some PropertyType.undefined)
    fun t _ => ((begins_orVariant begins_typeName).ahead t).clear (by decide)
  exact hstar.congr (by rintro (t | t) <;> rfl)

/-- A `<` here begins a namespace mapping, which shows by the third token. -/
def OnlyMapping (ts : List Token) : Prop :=
  ∀ t ∈ ts.head?, t.kind = .leftAngle → ∃ u ∈ ts[2]?, u.kind = .equals

theorem Ahead.onlyMapping {kinds : List Token.Kind} (h : Ahead kinds rest)
    (hkinds : .leftAngle ∉ kinds) : OnlyMapping rest :=
  fun t ht hangle => absurd (hangle ▸ h t ht) hkinds

/-- What may come behind an item: another item or another declaration. -/
def BehindItem (ts : List Token) : Prop :=
  Ahead [.minus, .plus, .leftAngle, .leftBracket] ts ∧ OnlyMapping ts

/-- What may come behind a declaration: another one. -/
def BehindDeclaration (ts : List Token) : Prop :=
  Ahead [.leftAngle, .leftBracket] ts ∧ OnlyMapping ts

/-- The constraints of a property are no mapping: the third token is another one. -/
theorem third_ne_equals (x : Tree.OrVariant (Tree.CommaList Tree.Value))
    (hrest : Ahead [.minus, .plus, .leftAngle, .leftBracket] rest) :
    ∀ u ∈ (tokens x ++ rest)[1]?, u.kind ≠ .equals := by
  intro u hu heq
  -- Behind the mark or a word stands what follows the constraints, or a comma; behind a minus, its
  -- identifier.
  rcases x with t | ⟨n | w, l⟩
  · have hnext := hrest u (by simpa [List.head?_eq_getElem?] using hu)
    simp [heq] at hnext
  · cases hu
    cases n.word.2.symm.trans heq
  · have hmore := (Begins.symbol .comma).prod.ahead_list hrest l
    have hnext := hmore u (by simpa [List.head?_eq_getElem?] using hu)
    simp [heq] at hnext

theorem atMapping_ok {context : Context} {p : Position} (hend : context.ending = .ok p)
    (ts : List Token) :
    ∃ b, atMapping context ts = .ok (b, ts) ∧ (b ↔ ∃ u ∈ ts[2]?, u.kind = .equals) := by
  refine ⟨_, bind_ok (peek_ok hend 2 ts), ?_⟩
  rw [decide_eq_true_iff, kind_getD_atEnd (by decide)]

theorem offers_constraints :
    Offers readConstraints
      (fun x : Tree.Symbol .leftAngle × Tree.OrVariant (Tree.CommaList Tree.Value) =>
        Tree.orVariant Tree.values x.2) BehindItem BehindItem := by
  have hlist := Offers.behind (by decide : Token.Kind.leftAngle ≠ .eof) reads_valuesOrVariant
  have hcomma {ts : List Token} (h : BehindItem ts) : Clear [.comma] ts := h.1.clear (by decide)
  refine ⟨?settles, ?stops, ?derives, ?determined, ?apart, hlist.nonempty⟩
  case settles =>
    intro context p rest x hend hrest
    obtain ⟨t, x⟩ := x
    obtain ⟨mapping, hmapping, hiff⟩ := atMapping_ok hend (tokens (t, x) ++ rest)
    -- The look ahead at the third token never takes constraints for a mapping.
    have hfalse : ¬ mapping := by
      intro h
      obtain ⟨u, hu, heq⟩ := hiff.1 h
      exact third_ne_equals x hrest.1 u hu heq
    have hfront : (tokens (t, x) ++ rest)[0]? = some t.1 := rfl
    refine .of_ok (peek_of_getElem? hfront) ?_
    rw [if_pos t.2]
    refine .of_ok hmapping ?_
    rw [if_neg hfalse]
    exact hlist.settles (t, x) hend (hcomma hrest)
  case stops =>
    intro context p ts hend hts
    rw [readConstraints, bind_ok (peek_ok hend 0 ts)]
    by_cases hangle : (ts[0]?.getD (Token.atEnd p)).kind = .leftAngle
    · rw [if_pos hangle]
      obtain ⟨t, ht, hangle⟩ := (kind_getD_atEnd (by decide)).1 hangle
      obtain ⟨mapping, hmapping, hiff⟩ := atMapping_ok hend ts
      have htrue : mapping := hiff.2 (hts.2 t (by rwa [List.head?_eq_getElem?]) hangle)
      rw [bind_ok hmapping, if_pos htrue]
      rfl
    · rw [if_neg hangle]
      rfl
  case derives =>
    intro context ts rest o ho
    obtain ⟨t, mid, hpeek, hmid⟩ := of_bind_ok ho
    obtain ⟨rfl, -⟩ := of_peek_ok hpeek
    split at hmid
    · obtain ⟨mapping, mid', hmapping, hlast⟩ := of_bind_ok hmid
      obtain ⟨u, mid'', hpeek', hpure⟩ := of_bind_ok hmapping
      obtain ⟨rfl, -⟩ := of_peek_ok hpeek'
      obtain ⟨-, rfl⟩ := of_pure_ok hpure
      split at hlast
      · obtain ⟨rfl, rfl⟩ := of_pure_ok hlast
        exact ⟨none, rfl, rfl, met_none⟩
      · exact hlist.derives hlast
    · obtain ⟨rfl, rfl⟩ := of_pure_ok hmid
      exact ⟨none, rfl, rfl, met_none⟩
  case determined =>
    intro x y r s hr hs heq
    exact hlist.determined (hcomma hr) (hcomma hs) heq
  case apart =>
    intro x r s hr hs heq
    obtain ⟨t, x⟩ := x
    subst heq
    obtain ⟨u, hu, heq⟩ := hs.2 t.1 rfl t.2
    exact third_ne_equals x hr.1 u hu heq

/-! ## Items -/

theorem offers_requiredType :
    Offers (behind .leftParen (upTo .rightParen readPropertyType))
      (fun x : Tree.Symbol .leftParen × Tree.RequiredType × Tree.Symbol .rightParen =>
        Tree.requiredType x.2.1) (Clear []) (Clear [.leftParen]) :=
  .behind (by decide) (reads_propertyType.upTo (by decide) id)

theorem offers_defaultValues :
    Offers (behind .equals (orVariant readValues))
      (fun x : Tree.Symbol .equals × Tree.OrVariant (Tree.CommaList Tree.Value) =>
        Tree.orVariant Tree.values x.2) (Clear [.comma]) (Clear [.equals]) :=
  .behind (by decide) reads_valuesOrVariant

theorem reads_propertyAttributes :
    Reads (many readPropertyAttribute) (List.map Tree.propertyAttribute)
      fun ts => Clear [.question] ts ∧ Clear [.identifier, .bang, .star] ts :=
  offers_propertyAttribute.many fun a _ => (begins_propertyAttribute.ahead a).clear (by decide)

theorem ahead_constraints
    (constraints : Option (Tree.Symbol .leftAngle × Tree.OrVariant (Tree.CommaList Tree.Value)))
    (hrest : BehindItem rest) :
    Ahead [.leftAngle, .minus, .plus, .leftAngle, .leftBracket] (tokens constraints ++ rest) :=
  (Begins.symbol .leftAngle).prod.ahead_option hrest.1 constraints

theorem reads_property : Reads readProperty Tree.property BehindItem := by
  -- Part by part; what may follow each is what the remaining parts can begin with.
  refine reads_itemName.bind (fun n => ?_) fun _ _ _ => clear_nil _
  refine offers_requiredType.option.bind (fun type => ?_) ?_
  · refine offers_defaultValues.option.bind (fun defaults => ?_) ?_
    · refine reads_propertyAttributes.bind (fun attributes => ?_) ?_
      · rw [bind_pure_comp]
        refine ((offers_constraints.option.mono fun h => ⟨h, h⟩).map _).congr fun constraints => ?_
        rcases type with _ | type <;> rcases defaults with _ | defaults <;>
          rcases constraints with _ | constraints <;> rfl
      · intro constraints rest hrest
        have hnext := ahead_constraints constraints hrest
        exact ⟨hnext.clear (by decide), hnext.clear (by decide)⟩
    · intro x rest hrest
      obtain ⟨attributes, constraints⟩ := x
      have hnext := begins_propertyAttribute.ahead_list (ahead_constraints constraints hrest)
        attributes
      rw [tokens_prod, List.append_assoc]
      exact ⟨hnext.clear (by decide), hnext.clear (by decide)⟩
  · intro x rest hrest
    obtain ⟨defaults, attributes, constraints⟩ := x
    have hnext := begins_propertyAttribute.ahead_list (ahead_constraints constraints hrest)
      attributes
    have hnext := (Begins.symbol .equals).prod.ahead_option hnext defaults
    simp only [tokens_prod, List.append_assoc]
    exact ⟨clear_nil _, hnext.clear (by decide)⟩

theorem offers_requiredPrimaryTypes :
    Offers (behind .leftParen (upTo .rightParen (orVariant readNames)))
      (fun x : Tree.Symbol .leftParen × Tree.OrVariant (Tree.CommaList Tree.Name) ×
        Tree.Symbol .rightParen => Tree.orVariant Tree.names x.2.1) (Clear [])
      (Clear [.leftParen]) :=
  .behind (by decide) (reads_namesOrVariant.upTo (by decide) fun h => h.clear (by decide))

theorem offers_defaultPrimaryType :
    Offers (behind .equals (orVariant readName))
      (fun x : Tree.Symbol .equals × Tree.OrVariant Tree.Name => Tree.orVariant Tree.name x.2)
      (Clear []) (Clear [.equals]) :=
  .behind (by decide) reads_nameOrVariant

theorem reads_childNodeAttributes :
    Reads (many readChildNodeAttribute) (List.map Tree.childNodeAttribute)
      fun ts => Clear [.question] ts ∧ Clear [.identifier, .bang, .star] ts :=
  offers_childNodeAttribute.many fun a _ => (begins_childNodeAttribute.ahead a).clear (by decide)

theorem reads_childNode : Reads readChildNode Tree.childNode BehindItem := by
  refine reads_itemName.bind (fun n => ?_) fun _ _ _ => clear_nil _
  refine offers_requiredPrimaryTypes.option.bind (fun types => ?_) ?_
  · refine offers_defaultPrimaryType.option.bind (fun default => ?_) ?_
    · rw [bind_pure_comp]
      refine ((reads_childNodeAttributes.mono fun h => ?_).map _).congr fun attributes => ?_
      · exact ⟨h.1.clear (by decide), h.1.clear (by decide)⟩
      · rcases types with _ | types <;> rcases default with _ | default <;> rfl
    · intro attributes rest hrest
      have hnext := begins_childNodeAttribute.ahead_list hrest.1 attributes
      exact ⟨clear_nil _, hnext.clear (by decide)⟩
  · intro x rest hrest
    obtain ⟨default, attributes⟩ := x
    have hnext := begins_childNodeAttribute.ahead_list hrest.1 attributes
    have hnext := (Begins.symbol .equals).prod.ahead_option hnext default
    rw [tokens_prod, List.append_assoc]
    exact ⟨clear_nil _, hnext.clear (by decide)⟩

theorem begins_item : Begins Tree.Item [.minus, .plus] :=
  (Begins.symbol .minus).prod.sum (Begins.symbol .plus).prod

theorem offers_item : Offers readItem Tree.item BehindItem (Clear [.minus, .plus]) := by
  have hproperty := (Offers.behind (by decide : Token.Kind.minus ≠ .eof) reads_property).map
    ItemDeclaration.property
  have hchild := (Offers.behind (by decide : Token.Kind.plus ≠ .eof) reads_childNode).map
    ItemDeclaration.childNode
  have h := hproperty.orElse hchild fun x _ =>
    ((Begins.symbol .plus).prod.ahead x).clear (by decide)
  refine (h.mono id fun hrest => ⟨?_, ?_⟩).congr (by rintro (x | x) <;> rfl)
  · exact hrest.mono (by decide)
  · exact hrest.mono (by decide)

/-! ## Declarations -/

theorem reads_mapping :
    Reads readMapping (fun m => Tree.declaration (.inl m)) follow := by
  refine (Reads.expect (by decide)).bind (fun _ => ?_) fun _ _ _ => clear_nil _
  refine Reads.text.bind (fun key => ?_) fun _ _ _ => clear_nil _
  refine (Reads.expect (by decide)).bind (fun _ => ?_) fun _ _ _ => clear_nil _
  refine Reads.text.bind (fun uri => ?_) fun _ _ _ => clear_nil _
  rw [bind_pure_comp]
  exact (Reads.expect (by decide)).map _

theorem offers_supertypes :
    Offers (behind .rightAngle (orVariant readNames))
      (fun x : Tree.Symbol .rightAngle × Tree.OrVariant (Tree.CommaList Tree.Name) =>
        Tree.orVariant Tree.names x.2) (Clear [.comma]) (Clear [.rightAngle]) :=
  .behind (by decide) reads_namesOrVariant

theorem begins_nodeTypeOption : Begins Tree.NodeTypeOption [.identifier, .bang] :=
  begins_phrase (by rintro (_ | _) <;> simp [NodeTypeKeyword.symbols])

theorem reads_nodeTypeOptions :
    Reads (many readNodeTypeOption) (List.map Tree.nodeTypeOption)
      fun ts => Clear [.question] ts ∧ Clear [.identifier, .bang] ts :=
  offers_nodeTypeOption.many fun o _ => (begins_nodeTypeOption.ahead o).clear (by decide)

theorem reads_items :
    Reads (many readItem) (List.map Tree.item) fun ts => BehindItem ts ∧ Clear [.minus, .plus] ts :=
  offers_item.many fun i _ =>
    ⟨(begins_item.ahead i).mono (by decide), (begins_item.ahead i).onlyMapping (by decide)⟩

theorem reads_nodeType : Reads readNodeType Tree.nodeType BehindDeclaration := by
  refine (Reads.expect (by decide)).bind (fun _ => ?_) fun _ _ _ => clear_nil _
  refine reads_name.bind (fun n => ?_) fun _ _ _ => clear_nil _
  refine (Reads.expect (by decide)).bind (fun _ => ?_) fun _ _ _ => clear_nil _
  refine offers_supertypes.option.bind (fun supertypes => ?_) ?_
  · refine reads_nodeTypeOptions.bind (fun options => ?_) ?_
    · rw [bind_pure_comp]
      refine ((reads_items.mono fun h => ?_).map _).congr fun items => ?_
      · exact ⟨⟨h.1.mono (by decide), h.2⟩, h.1.clear (by decide)⟩
      · rcases supertypes with _ | supertypes <;> rfl
    · intro items rest hrest
      have hnext := begins_item.ahead_list hrest.1 items
      exact ⟨hnext.clear (by decide), hnext.clear (by decide)⟩
  · intro x rest hrest
    obtain ⟨options, items⟩ := x
    have hnext := begins_item.ahead_list hrest.1 items
    have hnext := begins_nodeTypeOption.ahead_list hnext options
    rw [tokens_prod, List.append_assoc]
    exact ⟨hnext.clear (by decide), hnext.clear (by decide)⟩

theorem begins_declaration : Begins Tree.Declaration [.leftAngle, .leftBracket] :=
  (Begins.symbol .leftAngle).prod.sum (Begins.symbol .leftBracket).prod

theorem offers_declaration :
    Offers readDeclaration Tree.declaration BehindDeclaration (· = []) where
  settles := by
    intro context p rest x hend hrest
    rcases x with m | t
    · have hfront : (tokens (Sum.inl m : Tree.Declaration) ++ rest)[0]? = some m.1.1 := rfl
      refine .of_ok (peek_of_getElem? hfront) ?_
      rw [if_neg (by simp [m.1.2]), if_pos m.1.2]
      exact (reads_mapping.map some).settles m hend hrest
    · have hfront : (tokens (Sum.inr t : Tree.Declaration) ++ rest)[0]? = some t.1.1 := rfl
      refine .of_ok (peek_of_getElem? hfront) ?_
      rw [if_neg (by simp [t.1.2]), if_neg (by simp [t.1.2])]
      exact (reads_nodeType.map (some ∘ Declaration.nodeType)).settles t hend hrest
  stops := by
    intro context p _ hend heq
    subst heq
    rw [readDeclaration, bind_ok (peek_ok hend 0 [])]
    rfl
  derives := by
    intro context ts rest o ho
    obtain ⟨t, mid, hpeek, hmid⟩ := of_bind_ok ho
    obtain ⟨rfl, -⟩ := of_peek_ok hpeek
    split at hmid
    · obtain ⟨rfl, rfl⟩ := of_pure_ok hmid
      exact ⟨none, rfl, rfl, met_none⟩
    · split at hmid
      · obtain ⟨m, rfl, rfl, hm⟩ := ((@reads_mapping BehindDeclaration).map some).derives hmid
        exact ⟨some (.inl m), rfl, rfl, hm⟩
      · obtain ⟨t, rfl, rfl, ht⟩ := (reads_nodeType.map (some ∘ Declaration.nodeType)).derives hmid
        exact ⟨some (.inr t), rfl, rfl, ht⟩
  determined := by
    intro v w r s hr hs heq
    -- The first tokens tell a mapping from a node type.
    rcases v with x | x <;> rcases w with y | y
    · obtain ⟨rfl, rfl⟩ := reads_mapping.determined hr hs heq
      exact ⟨rfl, rfl⟩
    · cases y.1.2.symm.trans ((congrArg Token.kind (List.cons.inj heq).1).symm.trans x.1.2)
    · cases x.1.2.symm.trans ((congrArg Token.kind (List.cons.inj heq).1).trans y.1.2)
    · obtain ⟨rfl, rfl⟩ := reads_nodeType.determined hr hs heq
      exact ⟨rfl, rfl⟩
  apart := by
    intro x r s _ hs heq
    rw [hs] at heq
    exact begins_declaration.tokens_ne_nil x (List.append_eq_nil_iff.1 heq).1
  nonempty := begins_declaration.tokens_ne_nil

end Cnd.Document
