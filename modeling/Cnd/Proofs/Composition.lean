import Cnd.Proofs.Layout.Document

/-!
# Documents behind each other

A document may be continued by another one that is written behind a line feed. No part of the
first takes in the beginning of the second, although nothing marks the end of a node type: the
tokens of both derive one document, and there is only one derivation. So what the two denote comes
together (`parse_followed`).
-/

namespace Cnd

/-- The schema of two documents, the second of which continues the first. -/
def Schema.followedBy (s later : Schema) : Schema where
  namespaces := s.namespaces.update later.namespaces
  nodeTypes := s.nodeTypes ++ later.nodeTypes

namespace Document

/-! ## What declarations add up to -/

/-- A declaration takes its effect on the later of two schemas. -/
theorem Declaration.apply_followedBy (s later : Schema) (d : Declaration) :
    d.apply (s.followedBy later) = s.followedBy (d.apply later) := by
  cases d with
  | mapping key uri =>
    rw [apply, apply, Schema.followedBy, Schema.followedBy, Namespaces.update_insert]
  | nodeType t =>
    rw [apply, apply, Schema.followedBy, Schema.followedBy, List.append_assoc]

theorem toSchema_append (ds es : List Declaration) :
    toSchema (ds ++ es) = (toSchema ds).followedBy (toSchema es) := by
  have hempty : (toSchema ds).followedBy {} = toSchema ds := by
    rw [Schema.followedBy, List.append_nil, Namespaces.update_empty]
  calc toSchema (ds ++ es)
    _ = es.foldl Declaration.apply (toSchema ds) := List.foldl_append
    _ = es.foldl Declaration.apply ((toSchema ds).followedBy {}) := by rw [hempty]
    _ = (toSchema ds).followedBy (toSchema es) :=
      List.foldl_hom _ fun later d => Declaration.apply_followedBy _ later d

theorem Tree.schema_append (ds es : List Tree.Declaration) :
    Tree.schema (ds ++ es) = (Tree.schema ds).followedBy (Tree.schema es) := by
  rw [Tree.schema, List.map_append, toSchema_append, Tree.schema, Tree.schema]

/-! ## Known prefixes -/

variable {known known' : List String}

/-- The prefixes that are known behind some declarations. -/
def knownBehindAll (known : List String) (ds : List Declaration) : List String :=
  ds.foldl knownBehind known

theorem Tree.Scoped.mono {ds : List Tree.Declaration} (h : Tree.Scoped known ds)
    (hsub : known ⊆ known') : Tree.Scoped known' ds := by
  induction ds generalizing known known' with
  | nil => trivial
  | cons d ds ih =>
    refine ⟨h.1.mono hsub, ih h.2 ?_⟩
    cases Tree.declaration d with
    | mapping key uri => exact List.cons_subset_cons key hsub
    | nodeType t => exact hsub

theorem Tree.scoped_append {ds es : List Tree.Declaration} :
    Tree.Scoped known (ds ++ es) ↔ Tree.Scoped known ds ∧
      Tree.Scoped (knownBehindAll known (ds.map Tree.declaration)) es := by
  induction ds generalizing known with
  | nil => exact (iff_of_eq (true_and _)).symm
  | cons d ds ih => exact (and_congr_right fun _ => ih).trans and_assoc.symm

theorem subset_knownBehindAll (ds : List Declaration) : known ⊆ knownBehindAll known ds := by
  induction ds generalizing known with
  | nil => exact List.Subset.refl _
  | cons d ds ih =>
    refine List.Subset.trans ?_ ih
    cases d with
    | mapping key uri => exact List.subset_cons_self key known
    | nodeType t => exact List.Subset.refl _

/-- The prefixes that some declarations map are known behind them. -/
theorem keys_subset_knownBehindAll {s : Schema} {ds : List Declaration}
    (h : s.namespaces.keys ⊆ known) :
    (ds.foldl Declaration.apply s).namespaces.keys ⊆ knownBehindAll known ds := by
  induction ds generalizing s known with
  | nil => exact h
  | cons d ds ih =>
    refine ih ?_
    cases d with
    | mapping key uri =>
      intro name hname
      rcases Namespaces.mem_keys_insert.1 hname with rfl | hmem
      · exact List.mem_cons_self
      · exact List.mem_cons_of_mem _ (h hmem)
    | nodeType t => exact h

/-- Behind a document the prefixes of its own mappings may be used, and those from before. -/
theorem prefixesOf_update_subset (namespaces : Namespaces) (ds : List Declaration) :
    prefixesOf (namespaces.update (toSchema ds).namespaces) ⊆
      knownBehindAll (prefixesOf namespaces) ds := by
  intro name hname
  rw [prefixesOf, List.mem_append, Namespaces.mem_keys_update] at hname
  rcases hname with hbuiltin | hmem | hmem
  · exact subset_knownBehindAll ds (List.mem_append_left _ hbuiltin)
  · exact subset_knownBehindAll ds (List.mem_append_right _ hmem)
  · exact keys_subset_knownBehindAll (List.nil_subset _) hmem

/-! ## Derivations further on -/

/-- Where a text scans as `b` does in all but the places, the declarations of `b` are derived. -/
theorem derivation_of_alike {namespaces : Namespaces} {b : String} {t : Schema} {moved : Scan}
    (hb : parse namespaces b = .ok t) (h : (scan b).Alike moved) :
    (∃ p, moved.ending = .ok p) ∧ ∃ ds : List Tree.Declaration, tokens ds = moved.tokens ∧
      Tree.Scoped (prefixesOf namespaces) ds ∧ Tree.schema ds = t := by
  obtain ⟨hfailure, rfl⟩ := Reading.schema_eq_ok_iff.1 hb
  obtain ⟨hds, hnone⟩ := readDeclarations_alike h (prefixesOf namespaces) 0
  rw [List.drop_zero, List.drop_zero] at hds hnone
  rw [read, ← prefixesOf] at hfailure ⊢
  rw [hfailure] at hnone
  have hkind : ∀ u ∈ moved.tokens, u.kind ≠ .eof :=
    h.forall_kind (p := (· ≠ .eof)) fun _ => Lexical.kind_ne_eof_of_mem_scan
  have hmoved : (readDeclarations moved.ending (prefixesOf namespaces) moved.tokens).failure =
      none := by
    generalize (readDeclarations moved.ending _ moved.tokens).failure = o at hnone ⊢
    cases hnone
    rfl
  obtain ⟨hend, ds, htokens, hscoped, hdeclarations⟩ := readDeclarations_derives hkind hmoved
  exact ⟨hend, ds, htokens, hscoped, by rw [Tree.schema, ← hdeclarations, hds]⟩

/-- **Documents compose.** A document that is parsed with the prefixes of another one known may be
written behind it, after a line feed. The node types of the second come behind those of the first; a
prefix that both map keeps its place and takes the URI of the second, and the other prefixes of the
second come behind. -/
theorem parse_followed {namespaces : Namespaces} {a b : String} {s t : Schema}
    (ha : parse namespaces a = .ok s) (hb : parse (namespaces.update s.namespaces) b = .ok t) :
    parse namespaces (a ++ "\n" ++ b) = .ok (s.followedBy t) ∧
      (s.followedBy t).nodeTypes = s.nodeTypes ++ t.nodeTypes ∧
      (s.followedBy t).namespaces.entries =
        (s.namespaces.entries.map fun e => (e.1, (t.namespaces.find? e.1).getD e.2)) ++
          t.namespaces.entries.filter fun e => e.1 ∉ s.namespaces.keys := by
  refine ⟨?_, rfl, Namespaces.entries_update⟩
  obtain ⟨⟨p, hend⟩, ds, hds, hscoped, rfl⟩ := derivation_of_parse ha
  have hcut := (Lexical.decomposes_of_ending hend).boundary b.toList
  obtain ⟨us, hscan, hmoved, hflaw⟩ := Lexical.scan_boundary hcut
  have htext : String.ofList (a.toList ++ ['\n'] ++ b.toList) = a ++ "\n" ++ b := by
    rw [← String.toList_inj]
    simp
  rw [htext] at hscan hflaw
  rw [String.ofList_toList] at hmoved hflaw
  have halike : (scan b).Alike ⟨us, (scan (a ++ "\n" ++ b)).ending⟩ :=
    ⟨hmoved.imp fun _ _ h => h.alike, glued_of_moved hmoved, hflaw.symm⟩
  obtain ⟨⟨q, hend'⟩, es, (hes : tokens es = us), hscoped', rfl⟩ := derivation_of_alike hb halike
  rw [← Tree.schema_append]
  refine parse_of_derivation hend' ?_ ?_
  · rw [hscan, ← hds, ← hes]
    exact List.flatMap_append
  · refine Tree.scoped_append.2 ⟨hscoped, hscoped'.mono ?_⟩
    exact prefixesOf_update_subset namespaces _

/-- The first text ends with a property that may still take constraints, and a comment. The second
begins with a `<`, and maps a prefix of the first again. -/
theorem parse_followed_mapping :
    let a := "<x = 'u'> <y = 'v'> [x:a]\n- p // end"
    let b := "<x = 'w'> [x:b] > y:a"
    let s : Schema :=
      { namespaces := .ofList [("x", "u"), ("y", "v")]
        nodeTypes := [{ name := "x:a", properties := [{ name := "p", requiredType := .string }] }] }
    let t : Schema :=
      { namespaces := .ofList [("x", "w")]
        nodeTypes := [{ name := "x:b", supertypes := ["y:a"] }] }
    parse .empty a = .ok s ∧ parse (Namespaces.empty.update s.namespaces) b = .ok t ∧
      parse .empty (a ++ "\n" ++ b) = .ok (s.followedBy t) ∧
      (s.followedBy t).namespaces.entries = [("x", "w"), ("y", "v")] := by
  intro a b s t
  have ha : parse .empty a = .ok s := by
    rw [parse, Reading.schema_eq_ok_iff]
    decide +kernel
  have hb : parse (Namespaces.empty.update s.namespaces) b = .ok t := by
    rw [parse, Reading.schema_eq_ok_iff]
    decide +kernel
  exact ⟨ha, hb, (parse_followed ha hb).1, by decide⟩

end Document

end Cnd
