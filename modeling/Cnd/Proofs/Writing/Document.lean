import Cnd.Proofs.Grammar.Document
import Cnd.Proofs.Writing.Reread

/-!
# Reading a written schema

The text of a schema scans to the tokens of a derivation, whatever texts the schema holds: no
name and no value can leak into what stands around it. What the derivation denotes and which
conditions it has to meet are known, and so is what becomes of the text when it is parsed
(`parse_render`).
-/

namespace Cnd

open Cnd.Document

/-! ## The tokens of the text -/

namespace Document

section Join

variable {α β γ : Type} [Phrase α] {value : α → γ} {f : β → List Char} {r : β → List γ}
  {g : β → List Condition} {sep : List Char}

theorem Spells.appendLists {cs ds : List Char} {bs bs' : List γ} {conds conds' : List Condition}
    (h : Spells cs (List.map value) bs conds) (h' : Spells ds (List.map value) bs' conds')
    (hds : Apart ds) : Spells (cs ++ ds) (List.map value) (bs ++ bs') (conds ++ conds') := by
  refine (h.append h' hds).wrap fun x hx hconds => ⟨x.1 ++ x.2, List.flatMap_append, ?_, ?_⟩
  · obtain ⟨rfl, rfl⟩ := Prod.mk.inj hx
    exact List.map_append
  · exact List.flatMap_append.trans hconds

theorem spells_join {d : Char} (hd : Text.isBlank d) (hsep : sep.all Text.isBlank)
    {bs : List β} (h : ∀ b ∈ bs, Spells (f b) (List.map value) (r b) (g b)) :
    Spells (joinWith (d :: sep) (bs.map f)) (List.map value) (bs.flatMap r) (bs.flatMap g) := by
  have hapart (bs : List β) : Apart (bs.flatMap fun b => d :: sep ++ f b) :=
    apart_flatMap fun _ _ => apart_cons _ (Lexical.not_isIdentifierPart_of_isBlank hd)
  cases bs with
  | nil => exact .nil
  | cons b bs =>
    obtain ⟨hb, hbs⟩ := List.forall_mem_cons.1 h
    rw [List.map_cons, joinWith_cons, List.flatMap_map]
    refine hb.appendLists ?_ (hapart bs)
    -- The first text has none in front of it; the others all have the separator.
    clear hb h
    induction bs with
    | nil => exact .nil
    | cons c bs ih =>
      obtain ⟨hc, hmore⟩ := List.forall_mem_cons.1 hbs
      exact ((hc.blanks hsep).blank hd).appendLists (ih hmore) (hapart bs)

end Join

/-- The declarations of a block, one on each line. -/
def renderBlock (ds : List Declaration) : List Char := joinWith ['\n'] (ds.map Declaration.render)

theorem spells_block (ds : List Declaration) :
    Spells (renderBlock ds)
      (List.map fun x : Tree.Declaration => (Tree.declaration x, Phrase.conditions x))
      (ds.flatMap fun d => [(d.reread, d.conditions)]) (ds.flatMap Declaration.conditions) :=
  spells_join (by decide) rfl fun d _ => by
    have h := (spells_declaration d).cons .nil apart_nil
    rwa [List.append_nil, List.append_nil] at h

theorem spells_blocks (blocks : List (List Declaration)) :
    Spells (joinWith ['\n', '\n'] (blocks.map renderBlock))
      (List.map fun x : Tree.Declaration => (Tree.declaration x, Phrase.conditions x))
      (blocks.flatMap fun ds => ds.flatMap fun d => [(d.reread, d.conditions)])
      (blocks.flatMap fun ds => ds.flatMap Declaration.conditions) :=
  spells_join (by decide) (by decide) fun ds _ => spells_block ds

/-- A text that spells trees scans to their tokens, also with a line feed behind it. -/
theorem Spells.scan {α β : Type} [Phrase α] {cs : List Char} {value : α → β} {b : β}
    {conds : List Condition} (h : Spells cs value b conds) :
    ∃ x p, Cnd.scan (String.ofList (cs ++ ['\n'])) = ⟨tokens x, .ok p⟩ ∧ value x = b ∧
      conditions x = conds := by
  obtain ⟨x, hx, hconds, hscan⟩ := h ['\n'] (apart_cons _ (by decide)) .start
  refine ⟨x, (Position.start.after cs).next '\n', ?_, hx, hconds⟩
  -- Behind the last token only the line feed is left, which is a gap.
  have hgap : Lexical.Gap ['\n'] [] := .blank (by decide) .nil
  have hnext := Lexical.next_end (c := ⟨['\n'], Position.start.after cs⟩) hgap
  rw [Cnd.scan, Cursor.ofString, String.toList_ofList, hscan, Lexical.scanFrom_end hnext rfl]
  simp [Token.atEnd]

end Document

namespace Schema

/-- The declarations of the blocks of the text. -/
def blockDeclarations (s : Schema) : List (List Declaration) :=
  (if s.namespaces.entries.isEmpty then [] else
      [s.namespaces.entries.map fun e => .mapping e.1 e.2]) ++
    s.nodeTypes.map fun t => [.nodeType t.toDeclaration]

theorem blocks_eq (s : Schema) : s.blocks = s.blockDeclarations.map renderBlock := by
  have hnodeTypes : (s.nodeTypes.map fun t => [Declaration.nodeType t.toDeclaration]).map
      renderBlock = s.nodeTypes.map fun t => t.toDeclaration.render := by
    rw [List.map_map]
    rfl
  rw [blocks, blockDeclarations, List.map_append, hnodeTypes]
  cases hentries : s.namespaces.entries with
  | nil => rfl
  | cons e entries =>
    simp only [List.map_cons, List.isEmpty_cons, if_neg Bool.false_ne_true]
    rw [renderBlock, List.map_cons, List.map_map]
    rfl

theorem flatten_blockDeclarations (s : Schema) : s.blockDeclarations.flatten = s.declarations := by
  rw [blockDeclarations, declarations, List.flatten_append]
  congr 1
  · cases hentries : s.namespaces.entries <;> simp
  · rw [← List.flatMap_def, ← List.map_eq_flatMap]

theorem scan_empty : scan "" = ⟨[], .ok .start⟩ :=
  Lexical.scanFrom_end (Lexical.next_end .nil) rfl []

/-- The text of a schema scans to the tokens of its declarations. -/
theorem scan_render (s : Schema) :
    ∃ (ds : List Tree.Declaration) (p : Position), scan s.render = ⟨tokens ds, .ok p⟩ ∧
      (ds.map fun d => (Tree.declaration d, conditions d)) =
        s.declarations.map fun d => (d.reread, d.conditions) := by
  rw [← flatten_blockDeclarations, render, blocks_eq]
  cases s.blockDeclarations with
  | nil => exact ⟨[], .start, scan_empty, rfl⟩
  | cons block blocks =>
    obtain ⟨ds, p, hscan, hds, -⟩ := (spells_blocks (block :: blocks)).scan
    refine ⟨ds, p, hscan, hds.trans ?_⟩
    rw [List.map_flatten, List.flatMap_def]
    simp only [← List.map_eq_flatMap]

end Schema

/-! ## The conditions on the text -/

namespace Document

variable {known : List String}

theorem holds_residualName : (Condition.name residualName).Holds known := by
  have hnone : prefixOf? residualName = none := by decide
  intro key hkey
  rw [hnone] at hkey
  cases hkey

theorem forall_itemNameConditions {name : String} :
    (∀ c ∈ itemNameConditions name, c.Holds known) ↔ (Condition.name name).Holds known := by
  unfold itemNameConditions
  by_cases h : name = residualName
  · subst h
    exact iff_of_true (List.forall_mem_nil _) holds_residualName
  · rw [if_neg h]
    exact List.forall_mem_singleton

theorem scoped_nodeTypes {ds : List Tree.Declaration} {ts : List NodeTypeDeclaration}
    (h : (ds.map fun d => (Tree.declaration d, conditions d)) =
      ts.map fun t => (.nodeType t.reread, t.conditions)) :
    Tree.Scoped known ds ↔ ∀ t ∈ ts, ∀ c ∈ t.conditions, c.Holds known := by
  induction ts generalizing ds with
  | nil =>
    obtain rfl := List.map_eq_nil_iff.1 h
    exact iff_of_true trivial (List.forall_mem_nil _)
  | cons t ts ih =>
    obtain ⟨d, ds, rfl, hd, hds⟩ := List.map_eq_cons_iff.1 h
    obtain ⟨hvalue, hconds⟩ := Prod.mk.inj hd
    rw [Tree.Scoped, hvalue, knownBehind, ih hds, Met, hconds, List.forall_mem_cons]

theorem scoped_declarations {ds : List Tree.Declaration} {entries : List (String × String)}
    {ts : List NodeTypeDeclaration}
    (h : (ds.map fun d => (Tree.declaration d, conditions d)) =
      (entries.map fun e => (.mapping e.1 e.2, [])) ++
        ts.map fun t => (.nodeType t.reread, t.conditions)) :
    Tree.Scoped known ds ↔
      ∀ t ∈ ts, ∀ c ∈ t.conditions, c.Holds (known ++ entries.map (·.1)) := by
  -- The prefixes that are known grow with each mapping; the node types come behind all of them.
  induction entries generalizing ds known with
  | nil =>
    rw [List.map_nil, List.append_nil]
    exact scoped_nodeTypes h
  | cons e entries ih =>
    obtain ⟨d, ds, rfl, hd, hds⟩ := List.map_eq_cons_iff.1 h
    obtain ⟨hvalue, hconds⟩ := Prod.mk.inj hd
    have hmet : Met known d := by
      rw [Met, hconds]
      exact List.forall_mem_nil _
    rw [Tree.Scoped, hvalue, knownBehind, ih hds, and_iff_right hmet]
    constructor
    · exact fun hall t ht c hc => (hall t ht c hc).mono (by simp)
    · exact fun hall t ht c hc => (hall t ht c hc).mono (by simp)

end Document

/-! ## Schemas whose text can be read -/

theorem map_eq_self_iff {α : Type} {f : α → α} {l : List α} :
    l.map f = l ↔ ∀ a ∈ l, f a = a := by
  induction l with
  | nil => simp
  | cons a l ih => simp [ih]

section Readable

variable {known : List String}

theorem Item.flatMap_attributes (i : Item) :
    (i.attributes.map PropertyAttribute.item).flatMap PropertyAttribute.conditions = [] := by
  rw [List.flatMap_map]
  exact List.flatMap_eq_nil_iff.2 fun _ _ => rfl

theorem Property.forall_conditions (p : Property) :
    (∀ c ∈ p.toDeclaration.conditions, c.Holds known) ↔
      (Condition.name p.name).Holds known ∧ (p.availableQueryOperators ≠ queryOperators →
        (Condition.operators (joinOperators p.availableQueryOperators)).Holds known) := by
  rw [PropertyDeclaration.conditions, List.forall_mem_append]
  refine and_congr forall_itemNameConditions ?_
  simp only [toDeclaration, List.flatMap_append, Item.flatMap_attributes, flatMap_phraseIf]
  by_cases h : p.availableQueryOperators = queryOperators <;>
    simp [PropertyAttribute.conditions, h]

theorem ChildNode.forall_conditions (c : ChildNode) :
    (∀ d ∈ c.toDeclaration.conditions, d.Holds known) ↔
      ∀ name ∈ c.name :: c.requiredPrimaryTypes ++ c.defaultPrimaryType.toList,
        (Condition.name name).Holds known := by
  simp only [ChildNodeDeclaration.conditions, toDeclaration, List.forall_mem_append,
    forall_itemNameConditions, List.forall_mem_map, List.forall_mem_cons]

namespace NodeType

/-- The names that a node type mentions. -/
def names (t : NodeType) : List String :=
  t.name :: t.supertypes ++ t.primaryItemName.toList ++ t.properties.map (·.name) ++
    t.childNodes.flatMap fun c => c.name :: c.requiredPrimaryTypes ++ c.defaultPrimaryType.toList

/-- Do its names only have prefixes among `known`, and can its lists of operators be read? A
list that is the default one is not written. -/
def Readable (known : List String) (t : NodeType) : Prop :=
  (∀ name ∈ t.names, (Condition.name name).Holds known) ∧
    ∀ p ∈ t.properties, p.availableQueryOperators ≠ queryOperators →
      (Condition.operators (joinOperators p.availableQueryOperators)).Holds known

theorem flatMap_options (t : NodeType) :
    t.options.flatMap NodeTypeOption.conditions = t.primaryItemName.toList.map .name := by
  rw [options]
  simp only [List.flatMap_append, flatMap_phraseIf, NodeTypeOption.conditions]
  cases t.primaryItemName <;> simp [NodeTypeOption.conditions]

/-- The conditions on the text of a node type say that it can be read. -/
theorem forall_conditions (t : NodeType) :
    (∀ c ∈ t.toDeclaration.conditions, c.Holds known) ↔ t.Readable known := by
  have hitems : (∀ c ∈ t.toDeclaration.items.flatMap ItemDeclaration.conditions, c.Holds known) ↔
      (∀ p ∈ t.properties, ∀ c ∈ p.toDeclaration.conditions, c.Holds known) ∧
        ∀ n ∈ t.childNodes, ∀ c ∈ n.toDeclaration.conditions, c.Holds known := by
    simp only [toDeclaration, List.flatMap_append, List.flatMap_map, List.forall_mem_append,
      List.forall_mem_flatMap, ItemDeclaration.conditions]
  have hnames : (∀ name ∈ t.names, (Condition.name name).Holds known) ↔
      ((((Condition.name t.name).Holds known ∧
        ∀ name ∈ t.supertypes, (Condition.name name).Holds known) ∧
        ∀ name ∈ t.primaryItemName.toList, (Condition.name name).Holds known) ∧
        ∀ p ∈ t.properties, (Condition.name p.name).Holds known) ∧
        ∀ n ∈ t.childNodes, ∀ c ∈ n.toDeclaration.conditions, c.Holds known := by
    simp only [names, List.forall_mem_append, List.forall_mem_cons, List.forall_mem_map,
      List.forall_mem_flatMap, ChildNode.forall_conditions]
  rw [NodeTypeDeclaration.conditions, Readable, hnames, List.forall_mem_append, hitems,
    List.forall_mem_append]
  show ((∀ c ∈ Condition.name t.name :: t.supertypes.map .name, c.Holds known) ∧
    ∀ c ∈ t.options.flatMap NodeTypeOption.conditions, c.Holds known) ∧ _ ↔ _
  rw [flatMap_options, List.forall_mem_cons, List.forall_mem_map, List.forall_mem_map]
  simp only [Property.forall_conditions]
  constructor
  · rintro ⟨hheader, hproperties, hchildren⟩
    exact ⟨⟨⟨hheader, fun p hp => (hproperties p hp).1⟩, hchildren⟩,
      fun p hp => (hproperties p hp).2⟩
  · rintro ⟨⟨⟨hheader, hnames⟩, hchildren⟩, hoperators⟩
    exact ⟨hheader, fun p hp => ⟨hnames p hp, hoperators p hp⟩, hchildren⟩

/-- Does the node type come back as it is? Its lists of names have no repetitions, and its lists
of operators are lists of different operators. -/
def Canonical (t : NodeType) : Prop :=
  t.supertypes.Nodup ∧ (∀ c ∈ t.childNodes, c.requiredPrimaryTypes.Nodup) ∧
    ∀ p ∈ t.properties, CanonicalOperators p.availableQueryOperators

theorem reread_eq_self_iff {t : NodeType} (h : t.Readable known) :
    t.reread = t ↔ t.Canonical := by
  have hproperties : t.properties.map Property.reread = t.properties ↔
      ∀ p ∈ t.properties, CanonicalOperators p.availableQueryOperators := by
    rw [map_eq_self_iff]
    refine forall₂_congr fun p hp => ?_
    rw [Property.reread_eq_self_iff, rereadOperators_eq_self_iff (h.2 p hp)]
  have hchildren : t.childNodes.map ChildNode.reread = t.childNodes ↔
      ∀ c ∈ t.childNodes, c.requiredPrimaryTypes.Nodup := by
    rw [map_eq_self_iff]
    exact forall₂_congr fun c _ => ChildNode.reread_eq_self_iff
  rw [Canonical, ← hproperties, ← hchildren, ← firsts_eq_self_iff]
  cases t
  simp only [reread, mk.injEq, true_and, and_comm]

end NodeType

end Readable

namespace Schema

/-- Can the text of the schema be read where the names may use the prefixes of `namespaces`? -/
def Readable (namespaces : Namespaces) (s : Schema) : Prop :=
  ∀ t ∈ s.nodeTypes, t.Readable (prefixesOf namespaces ++ s.namespaces.keys)

/-- Does the schema come back from its text as it is? -/
def Canonical (s : Schema) : Prop := ∀ t ∈ s.nodeTypes, t.Canonical

theorem reread_eq_self_iff {namespaces : Namespaces} {s : Schema} (h : s.Readable namespaces) :
    s.reread = s ↔ s.Canonical := by
  have hnodeTypes : s.nodeTypes.map NodeType.reread = s.nodeTypes ↔ s.Canonical := by
    rw [map_eq_self_iff]
    exact forall₂_congr fun t ht => NodeType.reread_eq_self_iff (h t ht)
  rw [← hnodeTypes]
  cases s
  simp only [reread, mk.injEq, true_and]

/-- The text of a schema comes back as the schema that is told, or is refused for a name or a
list of operators. -/
theorem parse_render_cases (namespaces : Namespaces) (s : Schema) :
    (s.Readable namespaces ∧ parse namespaces s.render = .ok s.reread) ∨
      (¬ s.Readable namespaces ∧ ∃ e, e.IsRefusal ∧
        parse namespaces s.render = .error (.parse e)) := by
  obtain ⟨ds, p, hscan, hds⟩ := s.scan_render
  have hscoped : Tree.Scoped (prefixesOf namespaces) ds ↔ s.Readable namespaces := by
    have hsplit : (ds.map fun d => (Tree.declaration d, conditions d)) =
        (s.namespaces.entries.map fun e => (.mapping e.1 e.2, [])) ++
          (s.nodeTypes.map NodeType.toDeclaration).map fun t =>
            (.nodeType t.reread, t.conditions) := by
      rw [hds, declarations, List.map_append, List.map_map, List.map_map, List.map_map]
      rfl
    rw [scoped_declarations hsplit, List.forall_mem_map]
    exact forall₂_congr fun t _ => t.forall_conditions
  have hschema : Tree.schema ds = s.reread := by
    have h := congrArg (List.map Prod.fst) hds
    rw [List.map_map, List.map_map] at h
    rw [← s.toSchema_reread]
    exact congrArg toSchema h
  rw [← hscoped, ← hschema]
  exact parse_tokens hscan

/-- **What becomes of a written schema.** The text of any schema can be scanned and follows the
grammar: it is parsed exactly if its names have known prefixes and its lists of operators can be
read, and refused for one of these otherwise. What comes back is the schema with the repetitions
taken out of its lists of names and its operators in the form in which they are read, and it is
the schema itself exactly if there is nothing to change. -/
theorem parse_render (namespaces : Namespaces) (s : Schema) :
    ((s.Readable namespaces ∧ parse namespaces s.render = .ok s.reread) ∨
      (¬ s.Readable namespaces ∧ ∃ e, e.IsRefusal ∧
        parse namespaces s.render = .error (.parse e))) ∧
      (parse namespaces s.render = .ok s ↔ s.Readable namespaces ∧ s.Canonical) := by
  refine ⟨parse_render_cases namespaces s, ?_⟩
  rcases parse_render_cases namespaces s with ⟨hreadable, hok⟩ | ⟨hreadable, e, -, herr⟩
  · rw [hok, Except.ok.injEq, reread_eq_self_iff hreadable, and_iff_right hreadable]
  · rw [herr]
    exact iff_of_false nofun fun h => hreadable h.1

end Schema

end Cnd
