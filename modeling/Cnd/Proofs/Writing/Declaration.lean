import Cnd.Proofs.Writing.Phrase

/-!
# Written declarations

A declaration is spelled by its text, up to two things that come back in another form: a list of
names loses its repetitions, and a list of operators is cut at its commas. The conditions on the
text are those on the names and the lists of operators of the declaration.
-/

namespace Cnd.Document

/-! ## Parts of a line -/

section Part

variable {α α' β γ δ : Type} [Phrase α] [Phrase α'] {f : β → List Char} {g : β → List Condition}

/-- The parts of a line behind the first one, each behind a space. -/
def renderParts (parts : List (List Char)) : List Char := parts.flatMap ([' '] ++ ·)

theorem apart_renderParts (parts : List (List Char)) : Apart (renderParts parts) :=
  apart_flatMap fun _ _ => apart_cons _ (by decide)

theorem Spells.line {cs : List Char} {parts : List (List Char)} {value : α → γ} {value' : α' → δ}
    {c : γ} {d : δ} {conds conds' : List Condition} (h : Spells cs value c conds)
    (h' : Spells (renderParts parts) value' d conds') :
    Spells (joinWith [' '] (cs :: parts)) (Prod.map value value') (c, d) (conds ++ conds') := by
  rw [joinWith_cons]
  exact h.append h' (apart_renderParts parts)

theorem Spells.parts {parts more : List (List Char)} {value : α → γ} {value' : α' → δ}
    {c : γ} {d : δ} {conds conds' : List Condition} (h : Spells (renderParts parts) value c conds)
    (h' : Spells (renderParts more) value' d conds') :
    Spells (renderParts (parts ++ more)) (Prod.map value value') (c, d) (conds ++ conds') := by
  rw [renderParts, List.flatMap_append]
  exact h.append h' (apart_renderParts more)

theorem Spells.part {cs : List Char} {value : α → γ} {c : γ} {conds : List Condition}
    (h : Spells cs value c conds) : Spells (renderParts [cs]) value c conds := by
  rw [renderParts, List.flatMap_singleton]
  exact .blank (by decide) h

/-- Parts that spell the items of a list. -/
theorem spells_parts {value : α → γ} {r : β → γ} (h : ∀ b, Spells (f b) value (r b) (g b))
    (bs : List β) :
    Spells (renderParts (bs.map f)) (List.map value) (bs.map r) (bs.flatMap g) := by
  rw [renderParts, List.flatMap_map]
  exact .flatMap (fun b _ => .blank (by decide) (h b)) fun _ _ => apart_cons _ (by decide)

theorem spells_optional {value : α → γ} {r : β → γ} (h : ∀ b, Spells (f b) value (r b) (g b))
    (o : Option β) :
    Spells (renderParts (o.toList.map f)) (Option.map value) (o.map r) (o.toList.flatMap g) := by
  cases o with
  | none => exact .none
  | some b =>
    rw [Option.toList_some, List.flatMap_singleton]
    exact (h b).part.some

/-- A list that is left out if it is empty. -/
theorem spells_renderPart {lead tail : List Char} {r : List β → List γ} {value : α → List γ}
    (hnil : r [] = [])
    (h : ∀ b bs, Spells (lead ++ renderList ((b :: bs).map f) ++ tail) value (r (b :: bs))
      ((b :: bs).flatMap g)) (bs : List β) :
    Spells (renderParts (renderPart lead (bs.map f) tail))
      (fun o : Option α => (o.map value).getD []) (r bs) (bs.flatMap g) := by
  cases bs with
  | nil =>
    rw [hnil]
    exact (Spells.none : Spells [] (Option.map value) none []).map (·.getD [])
  | cons b bs => exact (h b bs).part.some.map (·.getD [])

end Part

/-! ## Items -/

/-- The label of a type is a plain word and its own upper-case form. -/
theorem spells_typeName (t : PropertyType) : Spells t.label.toList Tree.TypeName.type t [] := by
  have hplain : isPlain t.label := by cases t <;> decide
  have hupper : Text.upper t.label = t.label := by cases t <;> decide +kernel
  have hword : Spells t.label.toList (fun w : Tree.Symbol .identifier => w.1.text) t.label [] :=
    .token (fun rest hrest => lexeme_of_isPlain hplain rest hrest) fun _ => rfl
  exact hword.wrap fun w hw _ => ⟨⟨w, t, by rw [hw, hupper]⟩, rfl, rfl, rfl⟩

theorem spells_propertyType (t : PropertyType) :
    Spells ('(' :: t.label.toList ++ [')'])
      (fun x : Tree.Symbol .leftParen × Tree.RequiredType × Tree.Symbol .rightParen =>
        Tree.requiredType x.2.1) (some t) [] := by
  have htype : Spells t.label.toList Tree.requiredType (some t) [] :=
    (spells_typeName t).orVariant.into Sum.inr id fun _ => ⟨rfl, rfl, rfl⟩
  exact .behind rfl (htype.upTo rfl (by decide))

theorem spells_requiredType (o : Option PropertyType) :
    Spells (renderParts (o.toList.map fun t => '(' :: t.label.toList ++ [')']))
      (fun o : Option (Tree.Symbol .leftParen × Tree.RequiredType × Tree.Symbol .rightParen) =>
        o.bind fun (_, t, _) => Tree.requiredType t) o [] := by
  refine (spells_optional spells_propertyType o).wrap fun x hx hconds => ⟨x, rfl, ?_, ?_⟩
  · have h := congrArg Option.join hx
    cases x <;> cases o <;> exact h
  · exact hconds.trans (List.flatMap_eq_nil_iff.2 fun _ _ => rfl)

/-- A list of values that is left out if it is empty. -/
theorem spells_values {d : Char} {kind : Token.Kind} (hd : Token.Kind.ofSymbol? d = some kind)
    (values : List String) :
    Spells (renderParts (renderPart [d, ' '] (values.map renderQuoted) []))
      (fun o : Option (Tree.Symbol kind × Tree.OrVariant (Tree.CommaList Tree.Value)) =>
        (o.bind fun (_, l) => Tree.orVariant Tree.values l).getD []) values [] := by
  have hvalue (s : String) : Spells (renderQuoted s) Tree.value s [] :=
    (spells_quoted s).into Sum.inr id fun _ => ⟨rfl, rfl, rfl⟩
  have hlist (v : String) (vs : List String) :
      Spells ([d, ' '] ++ renderList ((v :: vs).map renderQuoted) ++ [])
        (fun x : Tree.Symbol kind × Tree.OrVariant (Tree.CommaList Tree.Value) =>
          (Tree.orVariant Tree.values x.2).getD []) (v :: vs) ((v :: vs).flatMap fun _ => []) := by
    rw [List.append_nil]
    exact (Spells.behind hd (.blank (by decide) (spells_list hvalue v vs).orVariant)).map
      (·.getD [])
  refine (spells_renderPart (r := fun vs => vs) rfl hlist values).wrap fun o ho hconds =>
    ⟨o, rfl, ?_, hconds.trans (List.flatMap_eq_nil_iff.2 fun _ _ => rfl)⟩
  cases o <;> exact ho

def PropertyDeclaration.reread (p : PropertyDeclaration) : PropertyDeclaration :=
  { p with attributes := p.attributes.map PropertyAttribute.reread }

def PropertyDeclaration.conditions (p : PropertyDeclaration) : List Condition :=
  itemNameConditions p.name ++ p.attributes.flatMap PropertyAttribute.conditions

theorem spells_property (p : PropertyDeclaration) :
    Spells p.render (fun x : Tree.Symbol .minus × Tree.Property => Tree.property x.2) p.reread
      p.conditions := by
  -- The parts of the line are put together from the last one to the first.
  have hend := (spells_parts spells_propertyAttribute p.attributes).parts
    (spells_values (d := '<') rfl p.valueConstraints)
  have hend := (spells_values (d := '=') rfl p.defaultValues).parts hend
  have hline := (spells_itemName p.name).line ((spells_requiredType p.requiredType).parts hend)
  have h := Spells.behind (d := '-') rfl (.blank (d := ' ') (by decide) hline)
  rw [joinWith_cons] at h
  rw [PropertyDeclaration.render, List.cons_append, List.cons_append, List.cons_append,
    joinWith_cons, List.append_assoc, List.append_assoc]
  refine h.wrap fun x hx hconds => ⟨x, rfl, ?_, ?_⟩
  · obtain ⟨minus, n, type, defaults, attributes, constraints⟩ := x
    simp only [Prod.map, Prod.mk.injEq] at hx
    obtain ⟨hname, htype, hdefaults, hattributes, hconstraints⟩ := hx
    simp only [Tree.property, hname, htype, hdefaults, hattributes, hconstraints]
    rfl
  · rw [hconds, PropertyDeclaration.conditions]
    simp

/-- A list of names. One that is repeated comes back once. -/
theorem spells_names (name : String) (names : List String) :
    Spells (renderList ((name :: names).map renderName)) (Tree.orVariant Tree.names)
      (some (firsts (name :: names))) ((name :: names).flatMap fun n => [.name n]) :=
  ((spells_list spells_name name names).map firsts).orVariant

theorem spells_requiredPrimaryTypes (names : List String) :
    Spells (renderParts (renderPart ['('] (names.map renderName) [')']))
      (fun o : Option (Tree.Symbol .leftParen × Tree.OrVariant (Tree.CommaList Tree.Name) ×
          Tree.Symbol .rightParen) =>
        (o.bind fun (_, l, _) => Tree.orVariant Tree.names l).getD []) (firsts names)
      (names.map .name) := by
  refine (spells_renderPart (r := firsts) rfl (fun name more => (Spells.behind rfl
    ((spells_names name more).upTo rfl (by decide))).map (·.getD [])) names).wrap
      fun o ho hconds => ⟨o, rfl, ?_, hconds.trans List.map_eq_flatMap.symm⟩
  cases o <;> exact ho

def ChildNodeDeclaration.reread (c : ChildNodeDeclaration) : ChildNodeDeclaration :=
  { c with requiredPrimaryTypes := firsts c.requiredPrimaryTypes }

def ChildNodeDeclaration.conditions (c : ChildNodeDeclaration) : List Condition :=
  itemNameConditions c.name ++ c.requiredPrimaryTypes.map .name ++
    c.defaultPrimaryType.toList.map .name

theorem spells_defaultPrimaryType (o : Option String) :
    Spells (renderParts (o.toList.map fun t => ['=', ' '] ++ renderName t))
      (fun o : Option (Tree.Symbol .equals × Tree.OrVariant Tree.Name) =>
        o.bind fun (_, t) => Tree.orVariant Tree.name t) o (o.toList.map .name) := by
  have hname (t : String) : Spells (['=', ' '] ++ renderName t)
      (fun x : Tree.Symbol .equals × Tree.OrVariant Tree.Name => Tree.orVariant Tree.name x.2)
      (some t) [.name t] :=
    .behind rfl (.blank (by decide) (spells_name t).orVariant)
  refine (spells_optional hname o).wrap fun x hx hconds => ⟨x, rfl, ?_, ?_⟩
  · have h := congrArg Option.join hx
    cases x <;> cases o <;> exact h
  · rw [hconds]
    cases o <;> rfl

theorem spells_childNode (c : ChildNodeDeclaration) :
    Spells c.render (fun x : Tree.Symbol .plus × Tree.ChildNode => Tree.childNode x.2) c.reread
      c.conditions := by
  have hend := (spells_defaultPrimaryType c.defaultPrimaryType).parts
    (spells_parts spells_childNodeAttribute c.attributes)
  have hline := (spells_itemName c.name).line
    ((spells_requiredPrimaryTypes c.requiredPrimaryTypes).parts hend)
  have h := Spells.behind (d := '+') rfl (.blank (d := ' ') (by decide) hline)
  rw [joinWith_cons] at h
  rw [ChildNodeDeclaration.render, List.cons_append, List.cons_append, joinWith_cons,
    List.append_assoc]
  refine h.wrap fun x hx hconds => ⟨x, rfl, ?_, ?_⟩
  · obtain ⟨plus, n, types, default, attributes⟩ := x
    simp only [Prod.map, Prod.mk.injEq] at hx
    obtain ⟨hname, htypes, hdefault, hattributes⟩ := hx
    simp only [Tree.childNode, hname, htypes, hdefault, hattributes, List.map_id']
    rfl
  · rw [hconds, ChildNodeDeclaration.conditions]
    simp

def ItemDeclaration.reread : ItemDeclaration → ItemDeclaration
  | property p => property p.reread
  | childNode c => childNode c.reread

def ItemDeclaration.conditions : ItemDeclaration → List Condition
  | property p => p.conditions
  | childNode c => c.conditions

theorem spells_item (i : ItemDeclaration) : Spells i.render Tree.item i.reread i.conditions := by
  cases i with
  | property p =>
    exact (spells_property p).into Sum.inl ItemDeclaration.property fun _ => ⟨rfl, rfl, rfl⟩
  | childNode c =>
    exact (spells_childNode c).into Sum.inr ItemDeclaration.childNode fun _ => ⟨rfl, rfl, rfl⟩

/-! ## Node types and mappings -/

theorem spells_supertypes (names : List String) :
    Spells (renderParts (renderPart ['>', ' '] (names.map renderName) []))
      (fun o : Option (Tree.Symbol .rightAngle × Tree.OrVariant (Tree.CommaList Tree.Name)) =>
        (o.bind fun (_, l) => Tree.orVariant Tree.names l).getD []) (firsts names)
      (names.map .name) := by
  have hlist (name : String) (more : List String) :
      Spells (['>', ' '] ++ renderList ((name :: more).map renderName) ++ [])
        (fun x : Tree.Symbol .rightAngle × Tree.OrVariant (Tree.CommaList Tree.Name) =>
          (Tree.orVariant Tree.names x.2).getD []) (firsts (name :: more))
        ((name :: more).flatMap fun n => [.name n]) := by
    rw [List.append_nil]
    exact (Spells.behind rfl (.blank (by decide) (spells_names name more))).map (·.getD [])
  refine (spells_renderPart (r := firsts) rfl hlist names).wrap fun o ho hconds =>
    ⟨o, rfl, ?_, hconds.trans List.map_eq_flatMap.symm⟩
  cases o <;> exact ho

def NodeTypeDeclaration.reread (t : NodeTypeDeclaration) : NodeTypeDeclaration :=
  { t with supertypes := firsts t.supertypes, items := t.items.map ItemDeclaration.reread }

def NodeTypeDeclaration.conditions (t : NodeTypeDeclaration) : List Condition :=
  .name t.name :: t.supertypes.map .name ++ t.options.flatMap NodeTypeOption.conditions ++
    t.items.flatMap ItemDeclaration.conditions

/-- Lines behind the first one, each indented. -/
def renderLines (lines : List (List Char)) : List Char := lines.flatMap (['\n', ' ', ' '] ++ ·)

theorem apart_renderLines (lines : List (List Char)) : Apart (renderLines lines) :=
  apart_flatMap fun _ _ => apart_cons _ (by decide)

/-- The line with the options, which is left out if there are none. -/
theorem spells_options (options : List NodeTypeOption) :
    Spells (renderLines (if options.isEmpty then [] else
        [joinWith [' '] (options.map NodeTypeOption.render)]))
      (List.map Tree.nodeTypeOption) options (options.flatMap NodeTypeOption.conditions) := by
  cases options with
  | nil => exact .nil
  | cons o options =>
    have hmore := spells_parts spells_nodeTypeOption options
    rw [List.map_id'] at hmore
    have hline := (spells_nodeTypeOption o).cons hmore (apart_renderParts _)
    rw [renderLines, List.isEmpty_cons, if_neg Bool.false_ne_true, List.flatMap_singleton,
      List.map_cons, joinWith_cons]
    exact hline.blanks (by decide)

theorem spells_items (items : List ItemDeclaration) :
    Spells (renderLines (items.map ItemDeclaration.render)) (List.map Tree.item)
      (items.map ItemDeclaration.reread) (items.flatMap ItemDeclaration.conditions) := by
  rw [renderLines, List.flatMap_map]
  exact .flatMap (fun i _ => (spells_item i).blanks (by decide)) fun _ _ => apart_cons _ (by decide)

theorem NodeTypeDeclaration.render_eq (t : NodeTypeDeclaration) :
    t.render = '[' :: (renderName t.name ++ ']' ::
      (renderParts (renderPart ['>', ' '] (t.supertypes.map renderName) []) ++
        (renderLines (if t.options.isEmpty then [] else
          [joinWith [' '] (t.options.map NodeTypeOption.render)]) ++
            renderLines (t.items.map ItemDeclaration.render)))) := by
  rw [NodeTypeDeclaration.render, joinWith_cons, joinWith_cons, renderParts, renderLines,
    renderLines, List.flatMap_map, List.flatMap_append]
  simp

theorem spells_nodeType (t : NodeTypeDeclaration) :
    Spells t.render Tree.nodeType t.reread t.conditions := by
  -- From the last line to the first, as each part must be apart from what is in front of it.
  have hbody := (spells_options t.options).append (spells_items t.items) (apart_renderLines _)
  have hend := (spells_supertypes t.supertypes).append hbody
    ((apart_renderLines _).append (apart_renderLines _))
  have h := Spells.behind (d := '[') rfl ((spells_name t.name).append (.behind (d := ']') rfl hend)
    (apart_cons _ (by decide)))
  rw [NodeTypeDeclaration.render_eq]
  refine h.wrap fun x hx hconds => ⟨x, rfl, ?_, ?_⟩
  · obtain ⟨left, n, right, supertypes, options, items⟩ := x
    simp only [Prod.map, Prod.mk.injEq] at hx
    obtain ⟨hname, hsupertypes, hoptions, hitems⟩ := hx
    simp only [Tree.nodeType, hname, hsupertypes, hoptions, hitems]
    rfl
  · rw [hconds, NodeTypeDeclaration.conditions]
    simp

theorem spells_mapping (key uri : String) :
    Spells (renderMapping key uri) (fun m => Tree.declaration (.inl m)) (.mapping key uri) [] := by
  have huri := Spells.blank (d := ' ') (by decide)
    ((spells_quoted uri).upTo (d := '>') rfl (by decide))
  have hequals := Spells.blank (d := ' ') (by decide) (Spells.behind (d := '=') rfl huri)
  have h := Spells.behind (d := '<') rfl
    ((spells_word key).append hequals (apart_cons _ (by decide)))
  have htext : renderMapping key uri =
      '<' :: (renderName key ++ ' ' :: '=' :: ' ' :: (renderQuoted uri ++ ['>'])) := by
    simp [renderMapping]
  rw [htext]
  refine h.wrap fun x hx hconds => ⟨x, rfl, ?_, hconds⟩
  obtain ⟨left, w, equals, v, right⟩ := x
  simp only [Prod.map, Prod.mk.injEq] at hx
  simp only [Tree.declaration, hx]

namespace Declaration

def render : Declaration → List Char
  | mapping key uri => renderMapping key uri
  | nodeType t => t.render

def reread : Declaration → Declaration
  | mapping key uri => mapping key uri
  | nodeType t => nodeType t.reread

def conditions : Declaration → List Condition
  | mapping _ _ => []
  | nodeType t => t.conditions

end Declaration

/-- A declaration is spelled by its text. The conditions are told along with the value, as they
hold where the declaration stands. -/
theorem spells_declaration (d : Declaration) :
    Spells d.render (fun x : Tree.Declaration => (Tree.declaration x, Phrase.conditions x))
      (d.reread, d.conditions) d.conditions := by
  cases d with
  | mapping key uri =>
    -- The conditions are told twice: on the whole text and along with the value.
    exact (spells_mapping key uri).wrap fun m hm hconds =>
      ⟨.inl m, rfl, Prod.ext hm hconds, hconds⟩
  | nodeType t =>
    exact (spells_nodeType t).wrap fun x hx hconds =>
      ⟨.inr x, rfl, Prod.ext (congrArg Declaration.nodeType hx) hconds, hconds⟩

end Cnd.Document
