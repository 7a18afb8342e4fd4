import Cnd.Proofs.Layout.Respell
import Cnd.Proofs.Layout.Rules
import Cnd.Proofs.Phrases.Kind

/-!
# Reordered documents

The options of a node type, the attributes of a property and those of a child node may be written
in another order, as long as the phrases of each kind stay in theirs. A phrase moves with all its
tokens, and no phrase can be taken for the end of the one in front of it: the tokens of the
reordered trees have no other derivation, and they denote the same schema (`parse_reordered`).
-/

namespace Cnd.Document

variable {known : List String}

/-! ## Parts of trees -/

section Parts

variable {α β κ : Type} [Phrase α] [Phrase β]

/-- The trees have the same tokens and the same conditions, in whatever order. -/
structure SameParts (x y : α) : Prop where
  tokens : (tokens x).Perm (tokens y)
  conditions : (conditions x).Perm (conditions y)

namespace SameParts

theorem refl (x : α) : SameParts x x := ⟨.refl _, .refl _⟩

theorem prod {a a' : α} {b b' : β} (h : SameParts a a') (h' : SameParts b b') :
    SameParts (a, b) (a', b') :=
  ⟨h.tokens.append h'.tokens, h.conditions.append h'.conditions⟩

theorem inl {a a' : α} (h : SameParts a a') : SameParts (.inl a : α ⊕ β) (.inl a') :=
  ⟨h.tokens, h.conditions⟩

theorem inr {b b' : β} (h : SameParts b b') : SameParts (.inr b : α ⊕ β) (.inr b') :=
  ⟨h.tokens, h.conditions⟩

theorem reordered [DecidableEq κ] {kind : α → κ} {l m : List α} (h : Reordered kind l m) :
    SameParts l m :=
  ⟨h.perm.flatMap_right _, h.perm.flatMap_right _⟩

theorem list {l m : List α} (h : List.Forall₂ SameParts l m) : SameParts l m := by
  induction h with
  | nil => exact refl []
  | cons hxy _ ih => exact ⟨hxy.tokens.append ih.tokens, hxy.conditions.append ih.conditions⟩

theorem met {x y : α} (h : SameParts x y) : Met known x ↔ Met known y :=
  forall_congr' fun _ => imp_congr_left h.conditions.mem_iff

end SameParts

end Parts

/-- Entries that are related take the same effect, in every place. -/
theorem foldl_map_eq {α β σ : Type} {R : α → α → Prop} {f : α → β} {step : σ → β → σ}
    (hstep : ∀ s x y, R x y → step s (f x) = step s (f y)) {l m : List α}
    (h : List.Forall₂ R l m) (s : σ) : (l.map f).foldl step s = (m.map f).foldl step s := by
  induction h generalizing s with
  | nil => rfl
  | cons hxy _ ih => rw [List.map_cons, List.map_cons, List.foldl_cons, List.foldl_cons,
      hstep s _ _ hxy, ih]

namespace Tree

/-! ## Items -/

/-- The properties differ in the order of their attributes alone. -/
inductive Property.Reordered : Property → Property → Prop where
  | intro {n : ItemName} {type : Option (Symbol .leftParen × RequiredType × Symbol .rightParen)}
      {defaults : Option (Symbol .equals × OrVariant (CommaList Value))}
      {attributes attributes' : List PropertyAttribute}
      {constraints : Option (Symbol .leftAngle × OrVariant (CommaList Value))}
      (h : Document.Reordered (fun a => (propertyAttribute a).kind) attributes attributes') :
      Reordered (n, type, defaults, attributes, constraints)
        (n, type, defaults, attributes', constraints)

/-- The child nodes differ in the order of their attributes alone. -/
inductive ChildNode.Reordered : ChildNode → ChildNode → Prop where
  | intro {n : ItemName}
      {types : Option (Symbol .leftParen × OrVariant (CommaList Name) × Symbol .rightParen)}
      {default : Option (Symbol .equals × OrVariant Name)}
      {attributes attributes' : List ChildNodeAttribute}
      (h : Document.Reordered (fun a => (childNodeAttribute a).kind) attributes attributes') :
      Reordered (n, types, default, attributes) (n, types, default, attributes')

inductive Item.Reordered : Item → Item → Prop where
  | property {sign : Symbol .minus} {p p' : Property} (h : p.Reordered p') :
      Reordered (.inl (sign, p)) (.inl (sign, p'))
  | childNode {sign : Symbol .plus} {c c' : ChildNode} (h : c.Reordered c') :
      Reordered (.inr (sign, c)) (.inr (sign, c'))

theorem Property.Reordered.sameParts {p p' : Property} (h : p.Reordered p') :
    SameParts p p' := by
  cases h with
  | @intro _ _ _ _ _ constraints h =>
    have hattributes := (SameParts.reordered h).prod (.refl constraints)
    exact .prod (.refl _) (.prod (.refl _) (.prod (.refl _) hattributes))

theorem ChildNode.Reordered.sameParts {c c' : ChildNode} (h : c.Reordered c') :
    SameParts c c' := by
  cases h with
  | intro h => exact .prod (.refl _) (.prod (.refl _) (.prod (.refl _) (.reordered h)))

theorem Item.Reordered.sameParts {i i' : Item} (h : i.Reordered i') : SameParts i i' := by
  cases h with
  | property h => exact .inl (.prod (.refl _) h.sameParts)
  | childNode h => exact .inr (.prod (.refl _) h.sameParts)

theorem Property.Reordered.toProperty_eq {p p' : Property} (h : p.Reordered p') :
    (property p).toProperty = (property p').toProperty := by
  cases h with
  | intro h =>
    exact foldl_reordered PropertyAttribute.apply_comm (h.map (f := propertyAttribute)) _

theorem ChildNode.Reordered.toChildNode_eq {c c' : ChildNode} (h : c.Reordered c') :
    (childNode c).toChildNode = (childNode c').toChildNode := by
  cases h with
  | intro h =>
    exact foldl_reordered ChildNodeAttribute.apply_comm (h.map (f := childNodeAttribute)) _

theorem Item.Reordered.isPrimary_eq {i i' : Item} (h : i.Reordered i') :
    (item i).isPrimary = (item i').isPrimary := by
  cases h with
  | property h =>
    cases h with
    | intro h =>
      rw [Bool.eq_iff_iff, item, ItemDeclaration.isPrimary, item, ItemDeclaration.isPrimary,
        List.contains_iff_mem, List.contains_iff_mem]
      exact (h.map (f := propertyAttribute)).mem_iff (.item .primary)
  | childNode h =>
    cases h with
    | intro h =>
      rw [Bool.eq_iff_iff, item, ItemDeclaration.isPrimary, item, ItemDeclaration.isPrimary,
        List.contains_iff_mem, List.contains_iff_mem]
      exact (h.map (f := childNodeAttribute)).mem_iff (.item .primary)

theorem Item.Reordered.name_eq {i i' : Item} (h : i.Reordered i') :
    (item i).name = (item i').name := by
  cases h with
  | property h => cases h; rfl
  | childNode h => cases h; rfl

/-- A reordered item has the same effect on its node type. -/
theorem Item.Reordered.apply_eq {i i' : Item} (h : i.Reordered i') (t : Cnd.NodeType) :
    (item i).apply t = (item i').apply t := by
  rw [ItemDeclaration.apply.eq_def, ItemDeclaration.apply.eq_def, h.isPrimary_eq, h.name_eq]
  cases h with
  | property h => simp only [item, h.toProperty_eq]
  | childNode h => simp only [item, h.toChildNode_eq]

/-! ## Node types -/

/-- The node types differ in the order of their options, and in that of the attributes of their
items, alone. -/
inductive NodeType.Reordered : NodeType → NodeType → Prop where
  | intro {bracket : Symbol .leftBracket} {n : Name} {close : Symbol .rightBracket}
      {supertypes : Option (Symbol .rightAngle × OrVariant (CommaList Name))}
      {options options' : List NodeTypeOption} {items items' : List Item}
      (hoptions : Document.Reordered (fun o => (nodeTypeOption o).kind) options options')
      (hitems : List.Forall₂ Item.Reordered items items') :
      Reordered (bracket, n, close, supertypes, options, items)
        (bracket, n, close, supertypes, options', items')

inductive Declaration.Reordered : Declaration → Declaration → Prop where
  | mapping (m : Mapping) : Reordered (.inl m) (.inl m)
  | nodeType {t t' : NodeType} (h : t.Reordered t') : Reordered (.inr t) (.inr t')

theorem NodeType.Reordered.sameParts {t t' : NodeType} (h : t.Reordered t') :
    SameParts t t' := by
  cases h with
  | intro hoptions hitems =>
    have hphrases := (SameParts.reordered hoptions).prod
      (.list (hitems.imp fun _ _ h => h.sameParts))
    exact .prod (.refl _) (.prod (.refl _) (.prod (.refl _) (.prod (.refl _) hphrases)))

theorem NodeType.Reordered.toNodeType_eq {t t' : NodeType} (h : t.Reordered t') :
    (nodeType t).toNodeType = (nodeType t').toNodeType := by
  cases h with
  | @intro bracket n close supertypes options options' items items' hoptions hitems =>
    have hheader := foldl_reordered NodeTypeOption.apply_comm
      (hoptions.map (f := nodeTypeOption))
    rw [nodeType, nodeType, NodeTypeDeclaration.toNodeType, NodeTypeDeclaration.toNodeType, hheader]
    exact foldl_map_eq (fun t _ _ h => h.apply_eq t) hitems _

/-! ## Declarations -/

theorem Declaration.Reordered.sameParts {d d' : Declaration} (h : d.Reordered d') :
    SameParts d d' := by
  cases h with
  | mapping m => exact .refl _
  | nodeType h => exact .inr h.sameParts

theorem Declaration.Reordered.apply_eq {d d' : Declaration} (h : d.Reordered d') (s : Schema) :
    (declaration d).apply s = (declaration d').apply s := by
  cases h with
  | mapping m => rfl
  | nodeType h =>
    rw [declaration, declaration, Document.Declaration.apply, Document.Declaration.apply,
      h.toNodeType_eq]

theorem Declaration.Reordered.knownBehind_eq {d d' : Declaration} (h : d.Reordered d') :
    knownBehind known (declaration d) = knownBehind known (declaration d') := by
  cases h with
  | mapping m => rfl
  | nodeType h => rfl

variable {ds ds' : List Declaration}

theorem scoped_reordered (h : List.Forall₂ Declaration.Reordered ds ds') :
    Scoped known ds ↔ Scoped known ds' := by
  induction h generalizing known with
  | nil => rfl
  | cons hd _ ih => rw [Scoped, Scoped, hd.sameParts.met, hd.knownBehind_eq, ih]

theorem schema_reordered (h : List.Forall₂ Declaration.Reordered ds ds') :
    schema ds = schema ds' := by
  rw [schema, toSchema, schema, toSchema]
  exact foldl_map_eq (fun s _ _ h => h.apply_eq s) h {}

/-! ## Texts -/

/-- The tokens of the text are those of the trees, but for their places. -/
def IsText (ds : List Declaration) (source : String) : Prop :=
  ∃ p, (⟨tokens ds, .ok p⟩ : Scan).Alike (scan source)

/-- Where no word can be glued to a minus, the kinds and the data of the tokens are all that a
text has to agree in. -/
theorem isText_of_map_eq {ds : List Declaration} {source : String} {p : Position}
    (hend : (scan source).ending = .ok p)
    (hminus : ∀ t ∈ tokens ds, t.kind ≠ .minus)
    (htokens : (tokens ds).map (fun t => (t.kind, t.data)) =
      (scan source).tokens.map fun t => (t.kind, t.data)) : IsText ds source := by
  have hminus' : ∀ u ∈ (scan source).tokens, u.kind ≠ .minus := by
    intro u hu
    have hu := List.mem_map_of_mem (f := fun t => (t.kind, t.data)) hu
    rw [← htokens] at hu
    obtain ⟨t, ht, htu⟩ := List.mem_map.1 hu
    have hkind : t.kind = u.kind := congrArg Prod.fst htu
    exact hkind ▸ hminus t ht
  have hglued {ts : List Token} (h : ∀ t ∈ ts, t.kind ≠ .minus) (i : Nat) : ¬ Glued ts i :=
    fun ⟨sign, _, hsign, _, hkind, _⟩ => h sign (List.mem_of_getElem? hsign) hkind
  have halike : List.Forall₂ Token.Alike (tokens ds) (scan source).tokens := by
    rw [← List.forall₂_eq_eq_eq, List.forall₂_map_left_iff, List.forall₂_map_right_iff] at htokens
    exact htokens.imp fun t u htu => ⟨congrArg Prod.fst htu, congrArg Prod.snd htu⟩
  refine ⟨p, halike, fun i => iff_of_false (hglued hminus i) (hglued hminus' i), ?_⟩
  rw [Scan.flaw, Scan.flaw, hend]

end Tree

variable {namespaces : Namespaces} {ds : List Tree.Declaration} {source : String}

/-- A text of trees whose conditions are met is parsed as what they denote. -/
theorem parse_of_isText (hscoped : Tree.Scoped (prefixesOf namespaces) ds)
    (h : Tree.IsText ds source) : parse namespaces source = .ok (Tree.schema ds) := by
  obtain ⟨p, halike⟩ := h
  have hds : readDeclarations (.ok p) (prefixesOf namespaces) (tokens ds) =
      ⟨ds.map Tree.declaration, none⟩ := by
    rcases readDeclarations_tokens (p := p) rfl ds with ⟨-, hok⟩ | ⟨hnot, -⟩
    · exact hok
    · exact absurd hscoped hnot
  obtain ⟨hsame, hnone⟩ := readDeclarations_alike halike (prefixesOf namespaces) 0
  rw [List.drop_zero, List.drop_zero, hds] at hsame hnone
  rw [parse, Reading.schema_eq_ok_iff, read, ← prefixesOf, ← hsame]
  refine ⟨?_, rfl⟩
  generalize (readDeclarations (scan source).ending _ (scan source).tokens).failure = o at hnone ⊢
  cases hnone
  rfl

/-- The phrases of a text that was scanned may be written down in another order. -/
theorem exists_isText {ds ds' : List Tree.Declaration} (htokens : tokens ds = (scan source).tokens)
    (h : List.Forall₂ Tree.Declaration.Reordered ds ds') : ∃ source', Tree.IsText ds' source' := by
  have hparts : SameParts ds ds' := .list (h.imp fun _ _ h => h.sameParts)
  obtain ⟨source', p, halike⟩ := exists_scan_alike fun t (ht : t ∈ tokens ds') => by
    rw [← hparts.tokens.mem_iff, htokens] at ht
    exact spellable_of_mem_scan ht
  exact ⟨source', p, halike⟩

/-- **Phrases of different kinds commute.** A document that is parsed has one derivation. If its
options and attributes are reordered, but for those of the same kind, the new sequence of phrases
can be written down, and however that is done, the text is parsed to the same schema. -/
theorem parse_reordered {s : Schema} (h : parse namespaces source = .ok s) :
    ∃ ds : List Tree.Declaration,
      (∀ es : List Tree.Declaration, tokens es = (scan source).tokens ↔ es = ds) ∧
      ∀ ds', List.Forall₂ Tree.Declaration.Reordered ds ds' →
        (∃ source', Tree.IsText ds' source') ∧
          ∀ source', Tree.IsText ds' source' → parse namespaces source' = .ok s := by
  obtain ⟨-, ds, htokens, hscoped, rfl⟩ := derivation_of_parse h
  refine ⟨ds, fun es => ⟨fun hes => ?_, fun hes => by rw [hes, htokens]⟩, fun ds' hds => ?_⟩
  · exact tokens_injective (hes.trans htokens.symm)
  · refine ⟨exists_isText htokens hds, fun source' hsource => ?_⟩
    rw [Tree.schema_reordered hds]
    exact parse_of_isText ((Tree.scoped_reordered hds).1 hscoped) hsource

/-- The name of the primary item reads like the keyword of the option behind it, which has a mark.
With the two in the other order, the keyword is still the one that the mark belongs to. -/
theorem parse_reordered_keyword :
    ∃ s, parse .empty "[a] primaryitem o o ?" = .ok s ∧
      parse .empty "[a] o ? primaryitem o" = .ok s ∧
      s.nodeTypes.map (·.primaryItemName) = [some "o"] := by
  have h : parse .empty "[a] primaryitem o o ?" =
      .ok { nodeTypes := [{ name := "a", primaryItemName := some "o" }] } :=
    Reading.schema_eq_ok_iff.2 ⟨by decide +kernel, by decide +kernel⟩
  obtain ⟨ds, hds, hreordered⟩ := parse_reordered h
  let item : Tree.NodeTypeOption :=
    ⟨.primaryItem, ⟨⟨.identifier, some "primaryitem", ⟨1, 5, 4⟩⟩, .inl (by decide +kernel)⟩,
      .inr ⟨⟨⟨.identifier, some "o", ⟨1, 17, 16⟩⟩, .inr rfl⟩⟩⟩
  let variant : Tree.NodeTypeOption :=
    ⟨.orderable, ⟨⟨.identifier, some "o", ⟨1, 19, 18⟩⟩, .inl (by decide +kernel)⟩,
      some ⟨⟨.question, some "?", ⟨1, 21, 20⟩⟩, rfl⟩⟩
  let document (options : List Tree.NodeTypeOption) : List Tree.Declaration :=
    [.inr (⟨⟨.leftBracket, some "[", ⟨1, 1, 0⟩⟩, rfl⟩,
      ⟨⟨⟨.identifier, some "a", ⟨1, 2, 1⟩⟩, .inr rfl⟩⟩,
      ⟨⟨.rightBracket, some "]", ⟨1, 3, 2⟩⟩, rfl⟩, none, options, [])]
  obtain rfl : document [item, variant] = ds := (hds _).1 (by decide +kernel)
  have hoptions : Reordered (fun o => (Tree.nodeTypeOption o).kind) [item, variant]
      [variant, item] := by
    rintro (_ | _ | _ | _ | _) <;> rfl
  have htext : Tree.IsText (document [variant, item]) "[a] o ? primaryitem o" :=
    Tree.isText_of_map_eq (p := ⟨1, 22, 21⟩) (by decide +kernel) (by decide +kernel)
      (by decide +kernel)
  refine ⟨_, h, (hreordered _ (.cons (.nodeType (.intro hoptions .nil)) .nil)).2 _ htext, rfl⟩

end Cnd.Document
