import Cnd.Schema.Canonical
import Cnd.Proofs.Writing.Spelling

/-!
# Line ends in a written schema

The text of a schema has line feeds for its line ends and no carriage returns: where a name or a
value has one, it is written as an escape. So a file with the text is read as it was written.
-/

namespace Cnd

open Cnd.Document

namespace Document

theorem not_mem_joinWith {c : Char} {sep : List Char} {texts : List (List Char)} (hsep : c ∉ sep)
    (h : ∀ text ∈ texts, c ∉ text) : c ∉ joinWith sep texts := by
  fun_induction joinWith sep texts with
  | case1 => exact List.not_mem_nil
  | case2 text => exact h text List.mem_cons_self
  | case3 text rest hrest ih =>
    obtain ⟨hfirst, hmore⟩ := List.forall_mem_cons.1 h
    simp only [List.mem_append, not_or]
    exact ⟨⟨hfirst, hsep⟩, ih hmore⟩

/-! ## Names and values -/

theorem not_mem_escapeChar (c : Char) : '\r' ∉ escapeChar c := by
  rw [escapeChar]
  repeat' split
  case isFalse h => simpa using Ne.symm h
  all_goals decide

theorem not_mem_renderQuoted (s : String) : '\r' ∉ renderQuoted s := by
  simp [renderQuoted, not_mem_escapeChar]

theorem not_mem_renderName (name : String) : '\r' ∉ renderName name := by
  rw [renderName]
  split
  · rename_i hplain
    intro hmem
    refine Lexical.not_isIdentifierPart_of_isBlank (c := '\r') (by decide) ?_
    obtain ⟨c, cs, hname, -, hparts⟩ := isPlain_iff.1 hplain
    rw [hname] at hmem
    exact hparts _ hmem
  · exact not_mem_renderQuoted name

theorem not_mem_renderItemName (name : String) : '\r' ∉ renderItemName name := by
  rw [renderItemName]
  split
  · decide
  · exact not_mem_renderName name

theorem not_mem_renderPart {lead tail : List Char} {parts : List (List Char)} (hlead : '\r' ∉ lead)
    (hparts : ∀ part ∈ parts, '\r' ∉ part) (htail : '\r' ∉ tail) :
    ∀ part ∈ renderPart lead parts tail, '\r' ∉ part := by
  rw [renderPart]
  split
  · exact List.forall_mem_nil _
  · have hlist : '\r' ∉ renderList parts := not_mem_joinWith (by decide) hparts
    simp [hlead, hlist, htail]

/-! ## Phrases -/

theorem not_mem_renderMarked {word : String} (h : '\r' ∉ word.toList) (variant : Bool) :
    '\r' ∉ renderMarked word variant := by
  cases variant <;> simp [renderMarked, h]

theorem NodeTypeOption.not_mem_render (o : NodeTypeOption) : '\r' ∉ o.render := by
  cases o with
  | queryable value => cases value <;> decide
  | primaryItem name =>
    cases name with
    | none => decide
    | some name =>
      change '\r' ∉ "primaryitem ".toList ++ renderName name
      rw [List.mem_append, not_or]
      exact ⟨by decide, not_mem_renderName name⟩
  | _ => exact not_mem_renderMarked (by decide) _

theorem ItemAttribute.not_mem_render (a : ItemAttribute) : '\r' ∉ a.render := by
  cases a with
  | primary => decide
  | onParentVersion value =>
    cases value with
    | none => decide
    | some v => cases v <;> decide
  | _ => exact not_mem_renderMarked (by decide) _

theorem PropertyAttribute.not_mem_render (a : PropertyAttribute) : '\r' ∉ a.render := by
  cases a with
  | item a => exact a.not_mem_render
  | queryOperators operators =>
    cases operators with
    | none => decide
    | some operators =>
      change '\r' ∉ "queryops ".toList ++ renderQuoted (", ".intercalate operators)
      rw [List.mem_append, not_or]
      exact ⟨by decide, not_mem_renderQuoted _⟩
  | _ => exact not_mem_renderMarked (by decide) _

theorem ChildNodeAttribute.not_mem_render (a : ChildNodeAttribute) : '\r' ∉ a.render := by
  cases a with
  | item a => exact a.not_mem_render
  | _ => exact not_mem_renderMarked (by decide) _

/-! ## Declarations -/

theorem not_mem_label (type : PropertyType) : '\r' ∉ type.label.toList := by
  cases type <;> decide

theorem PropertyDeclaration.not_mem_render (p : PropertyDeclaration) : '\r' ∉ p.render := by
  have hvalues (values : List String) : ∀ text ∈ values.map renderQuoted, '\r' ∉ text := by
    simp [not_mem_renderQuoted]
  refine not_mem_joinWith (by decide) ?_
  simp only [List.forall_mem_append, List.forall_mem_cons]
  refine ⟨⟨⟨⟨?_, ?_⟩, not_mem_renderPart (by decide) (hvalues _) (by decide)⟩, ?_⟩,
    not_mem_renderPart (by decide) (hvalues _) (by decide)⟩
  · simp [not_mem_renderItemName]
  · simp [not_mem_label]
  · simp [PropertyAttribute.not_mem_render]

theorem ChildNodeDeclaration.not_mem_render (c : ChildNodeDeclaration) : '\r' ∉ c.render := by
  refine not_mem_joinWith (by decide) ?_
  simp only [List.forall_mem_append, List.forall_mem_cons]
  refine ⟨⟨⟨?_, not_mem_renderPart (by decide) ?_ (by decide)⟩, ?_⟩, ?_⟩
  · simp [not_mem_renderItemName]
  · simp [not_mem_renderName]
  · simp [not_mem_renderName]
  · simp [ChildNodeAttribute.not_mem_render]

theorem ItemDeclaration.not_mem_render (i : ItemDeclaration) : '\r' ∉ i.render := by
  cases i with
  | property p => exact p.not_mem_render
  | childNode c => exact c.not_mem_render

theorem NodeTypeDeclaration.not_mem_render (t : NodeTypeDeclaration) : '\r' ∉ t.render := by
  have hoptions : '\r' ∉ joinWith [' '] (t.options.map NodeTypeOption.render) :=
    not_mem_joinWith (by decide) (by simp [NodeTypeOption.not_mem_render])
  refine not_mem_joinWith (by decide) ?_
  rw [List.forall_mem_cons]
  refine ⟨not_mem_joinWith (by decide) ?_, ?_⟩
  · rw [List.forall_mem_cons]
    exact ⟨by simp [not_mem_renderName],
      not_mem_renderPart (by decide) (by simp [not_mem_renderName]) (by decide)⟩
  · simp only [List.map_append, List.forall_mem_append]
    refine ⟨?_, by simp [ItemDeclaration.not_mem_render]⟩
    split
    · simp
    · simp [hoptions]

theorem not_mem_renderMapping (key uri : String) : '\r' ∉ renderMapping key uri := by
  simp [renderMapping, not_mem_renderName, not_mem_renderQuoted]

end Document

/-- The text of a schema has no carriage returns. -/
theorem Schema.not_mem_render (s : Schema) : '\r' ∉ s.render.toList := by
  have hblocks : ∀ block ∈ s.blocks, '\r' ∉ block := by
    have hmappings : '\r' ∉ joinWith ['\n'] (s.namespaces.entries.map fun e =>
        renderMapping e.1 e.2) :=
      not_mem_joinWith (by decide) (List.forall_mem_map.2 fun e _ => not_mem_renderMapping e.1 e.2)
    rw [blocks, List.forall_mem_append]
    refine ⟨?_, by simp [NodeTypeDeclaration.not_mem_render]⟩
    split
    · simp
    · simpa using hmappings
  rw [render]
  split
  · decide
  · rename_i hcons
    have hjoined : '\r' ∉ joinWith ['\n', '\n'] s.blocks := not_mem_joinWith (by decide) hblocks
    simpa using hjoined

end Cnd
