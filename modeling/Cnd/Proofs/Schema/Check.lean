import Cnd.Schema.Check
import Cnd.Proofs.Graph.Cycle
import Mathlib.Algebra.GroupWithZero.Nat
import Mathlib.Data.List.Nodup
import Mathlib.Data.List.Perm.Basic

/-!
# What checking a schema finds

How often every error is found, counted in the schema itself (`Schema.violations`), and that the
check finds each of them exactly that often (`Schema.errors_counted`). The lists of node types,
properties and child nodes are read from their first member to their last, with names kept that
were met before; the counts tell that the order plays no part in what is found.
-/

namespace Cnd

variable {l l' seen : List String} {name : String}

/-! ## Repetitions -/

/-- Every name is repeated as often as it is there, but for its first time. -/
theorem count_repeatsAfter :
    (repeatsAfter seen l).count name = l.count name - if name ∈ seen then 0 else 1 := by
  induction l generalizing seen with
  | nil => simp [repeatsAfter]
  | cons s rest ih =>
    rw [repeatsAfter]
    by_cases hs : s ∈ seen
    · rw [if_pos hs, List.count_cons, List.count_cons, ih]
      by_cases hname : s = name
      · subst hname
        simp [hs]
      · simp [hname]
    · rw [if_neg hs, List.count_cons, ih]
      by_cases hname : s = name
      · subst hname
        simp [hs]
      · simp [hname, Ne.symm hname]

theorem count_repeats : (repeats l).count name = l.count name - 1 := by
  rw [repeats, count_repeatsAfter, if_neg List.not_mem_nil]

theorem mem_repeated : name ∈ repeated l ↔ 2 ≤ l.count name := by
  rw [repeated, mem_firsts, ← List.count_pos_iff, count_repeats]
  omega

/-- A name that is there more than once is listed once. -/
theorem count_repeated : (repeated l).count name = if 2 ≤ l.count name then 1 else 0 := by
  split
  · rename_i h
    exact List.count_eq_one_of_mem (nodup_firsts _) (mem_repeated.2 h)
  · rename_i h
    exact List.count_eq_zero_of_not_mem (mt mem_repeated.1 h)

/-! ## How often a rule is broken -/

theorem count_map {α β : Type} [DecidableEq β] (f : α → β) (l : List α) (b : β) :
    (l.map f).count b = l.countP fun a => f a = b := by
  rw [List.count, List.countP_map]
  exact List.countP_congr fun a _ => by simp

/-- Is the error about node types that extend themselves? -/
def SchemaError.isCycle : SchemaError → Bool
  | supertypeCycle _ => true
  | _ => false

namespace NodeType

variable {t u : NodeType} {e : SchemaError}

/-- How often an error is found in a node type. -/
def violations (t : NodeType) : SchemaError → Nat
  | .repeatedProperty nodeType name =>
    if t.name = nodeType ∧ name ≠ residualName ∧ 2 ≤ t.properties.countP (·.name = name)
    then 1 else 0
  | .repeatedChildNode nodeType name =>
    if t.name = nodeType ∧ name ≠ residualName ∧ 2 ≤ t.childNodes.countP (·.name = name)
    then 1 else 0
  | .autocreatedResidual nodeType =>
    if t.name = nodeType then t.items.countP fun i => i.isResidual ∧ i.isAutocreated else 0
  | .mandatoryResidual nodeType =>
    if t.name = nodeType then t.items.countP fun i => i.isResidual ∧ i.isMandatory else 0
  | .missingDefaultType nodeType childNode =>
    if t.name = nodeType then
      t.childNodes.countP fun c =>
        c.name = childNode ∧ c.isAutocreated ∧ c.defaultPrimaryType = none
    else 0
  | .severalDefaults nodeType property count =>
    if t.name = nodeType ∧ 2 ≤ count then
      t.properties.countP fun p =>
        p.name = property ∧ ¬ p.isMultiple ∧ p.defaultValues.length = count
    else 0
  | .repeatedNodeType _ | .supertypeCycle _ => 0

/-- The node types have the same items, in any order, and nothing else tells them apart. -/
structure Rearranged (t u : NodeType) : Prop where
  properties : t.properties.Perm u.properties
  childNodes : t.childNodes.Perm u.childNodes
  others : u = { t with properties := u.properties, childNodes := u.childNodes }

/-! ## The rules for one node type -/

/-- How often the name of an item is there that is not residual. -/
theorem count_names (items : List Item) :
    ((items.filter (!·.isResidual)).map (·.name)).count name =
      if name = residualName then 0 else items.countP (·.name = name) := by
  rw [count_map, List.countP_filter]
  split
  · rename_i hname
    subst hname
    simp [Item.isResidual]
  · rename_i hname
    refine List.countP_congr fun i _ => ?_
    simp only [Item.isResidual, Bool.and_eq_true, decide_eq_true_eq, Bool.not_eq_true',
      decide_eq_false_iff_not]
    exact ⟨And.left, fun h => ⟨h, h ▸ hname⟩⟩

/-- Items of one name are reported once, under an error that tells them from other items. -/
theorem count_repeated_names (report : String → String → SchemaError)
    (hreport : ∀ a b c d, report a b = report c d ↔ a = c ∧ b = d) (nodeType : String)
    (items : List Item) :
    ((repeated ((items.filter (!·.isResidual)).map (·.name))).map (report t.name)).count
        (report nodeType name) =
      if t.name = nodeType ∧ name ≠ residualName ∧ 2 ≤ items.countP (·.name = name)
      then 1 else 0 := by
  rw [count_map]
  by_cases ht : t.name = nodeType
  · have hcount : (repeated ((items.filter (!·.isResidual)).map (·.name))).countP
        (fun a => report t.name a = report nodeType name) =
          (repeated ((items.filter (!·.isResidual)).map (·.name))).count name :=
      List.countP_congr fun a _ => by simp [hreport, ht]
    rw [hcount, count_repeated, count_names]
    by_cases hname : name = residualName <;> simp [hname, ht]
  · simp [hreport, ht]

theorem count_repeatedItems :
    t.repeatedItems.count e = match e with
      | .repeatedProperty _ _ | .repeatedChildNode _ _ => t.violations e
      | _ => 0 := by
  rw [repeatedItems, List.count_append]
  cases e with
  | repeatedProperty nodeType name =>
    rw [count_repeated_names .repeatedProperty (by simp), List.countP_map, count_map]
    simp [violations, Function.comp_def]
  | repeatedChildNode nodeType name =>
    rw [count_repeated_names .repeatedChildNode (by simp), List.countP_map, count_map]
    simp [violations, Function.comp_def]
  | _ => simp [count_map]

/-- Every residual item breaks the rules on its own, and may break both. -/
theorem count_residual (items : List Item) :
    ((items.filter (·.isResidual)).flatMap fun i =>
        (if i.isAutocreated then [SchemaError.autocreatedResidual t.name] else [])
          ++ if i.isMandatory then [.mandatoryResidual t.name] else []).count e =
      (if SchemaError.autocreatedResidual t.name = e then
        items.countP fun i => i.isResidual ∧ i.isAutocreated else 0) +
      (if SchemaError.mandatoryResidual t.name = e then
        items.countP fun i => i.isResidual ∧ i.isMandatory else 0) := by
  induction items with
  | nil => simp
  | cons i items ih =>
    cases hresidual : i.isResidual with
    | false => simpa [hresidual] using ih
    | true =>
      rw [List.filter_cons_of_pos hresidual, List.flatMap_cons, List.count_append,
        List.count_append, ih, List.countP_cons, List.countP_cons]
      simp only [hresidual, true_and, decide_eq_true_eq]
      cases i.isAutocreated <;> cases i.isMandatory <;> simp [List.count_cons] <;>
        split <;> split <;> omega

theorem count_residualItems :
    t.residualItems.count e = match e with
      | .autocreatedResidual _ | .mandatoryResidual _ => t.violations e
      | _ => 0 := by
  rw [residualItems, count_residual]
  cases e <;> simp [violations]

theorem count_untypedChildNodes :
    t.untypedChildNodes.count e = match e with
      | .missingDefaultType _ _ => t.violations e
      | _ => 0 := by
  rw [untypedChildNodes, count_map, List.countP_filter]
  cases e with
  | missingDefaultType nodeType childNode =>
    by_cases ht : t.name = nodeType
    · simp only [violations, if_pos ht]
      exact List.countP_congr fun c _ => by simp [ht]
    · simp [violations, ht]
  | _ => simp

theorem count_overfullProperties :
    t.overfullProperties.count e = match e with
      | .severalDefaults _ _ _ => t.violations e
      | _ => 0 := by
  rw [overfullProperties, count_map, List.countP_filter]
  cases e with
  | severalDefaults nodeType property count =>
    by_cases ht : t.name = nodeType ∧ 2 ≤ count
    · simp only [violations, if_pos ht]
      refine List.countP_congr fun p _ => ?_
      have := ht.2
      simp only [ht.1, SchemaError.severalDefaults.injEq, true_and, Bool.and_eq_true,
        Bool.not_eq_true', decide_eq_true_eq]
      constructor
      · rintro ⟨⟨hname, hcount⟩, hsingle, -⟩
        exact ⟨hname, by simp [hsingle], hcount⟩
      · rintro ⟨hname, hsingle, hcount⟩
        exact ⟨⟨hname, hcount⟩, by simpa using hsingle, by omega⟩
    · simp only [violations, if_neg ht]
      refine List.countP_eq_zero.2 fun p _ => ?_
      simp only [SchemaError.severalDefaults.injEq, Bool.and_eq_true, decide_eq_true_eq]
      rintro ⟨⟨hname, -, hcount⟩, -, hmore⟩
      exact ht ⟨hname, by omega⟩
  | _ => simp

theorem count_errors : t.errors.count e = t.violations e := by
  rw [errors, List.count_append, List.count_append, List.count_append, count_repeatedItems,
    count_residualItems, count_untypedChildNodes, count_overfullProperties]
  cases e <;> simp [violations]

theorem count_warnings (nodeType item : String) :
    t.warnings.count (.foreignPrimaryItem nodeType item) =
      if t.name = nodeType ∧ t.primaryItemName = some item ∧ item ∉ t.items.map (·.name)
      then 1 else 0 := by
  rw [warnings]
  cases t.primaryItemName with
  | none => simp
  | some name =>
    by_cases hname : name = item
    · subst hname
      by_cases hmem : name ∈ t.items.map (·.name) <;> simp [hmem, List.count_singleton]
    · by_cases hmem : name ∈ t.items.map (·.name) <;> simp [hname, hmem]

/-! ## Node types with rearranged items -/

theorem Rearranged.items (h : t.Rearranged u) : t.items.Perm u.items :=
  (h.properties.map _).append (h.childNodes.map _)

theorem Rearranged.name_eq (h : t.Rearranged u) : u.name = t.name := by
  rw [h.others]

theorem Rearranged.violations (h : t.Rearranged u) (e : SchemaError) :
    t.violations e = u.violations e := by
  have hname := h.name_eq
  cases e <;>
    simp only [NodeType.violations, hname, h.properties.countP_eq, h.childNodes.countP_eq,
      h.items.countP_eq]

theorem Rearranged.warnings (h : t.Rearranged u) (w : SchemaWarning) :
    t.warnings.count w = u.warnings.count w := by
  cases w with
  | foreignPrimaryItem nodeType item =>
    have hitem : u.primaryItemName = t.primaryItemName := by rw [h.others]
    rw [count_warnings, count_warnings, h.name_eq, hitem]
    simp only [(h.items.map (·.name)).mem_iff]

end NodeType

/-! ## The rules for a whole schema -/

namespace Schema

variable {s s' : Schema} {e : SchemaError} {a b : String}

/-- How often an error is found in a schema, cycles apart. -/
def violations (s : Schema) : SchemaError → Nat
  | .repeatedNodeType name => s.nodeTypes.countP (·.name = name) - 1
  | e => (s.nodeTypes.map (·.violations e)).sum

/-- The schemas have the same node types, in any order and with their items in any order. -/
def Rearranged (s s' : Schema) : Prop :=
  ∃ nodeTypes, s.nodeTypes.Perm nodeTypes ∧
    List.Forall₂ NodeType.Rearranged nodeTypes s'.nodeTypes

theorem count_repeatedNodeTypes :
    s.repeatedNodeTypes.count e = match e with
      | .repeatedNodeType _ => s.violations e
      | _ => 0 := by
  rw [repeatedNodeTypes]
  cases e with
  | repeatedNodeType name =>
    have hcount : (repeats (s.nodeTypes.map (·.name))).countP
        (fun a => SchemaError.repeatedNodeType a = .repeatedNodeType name) =
          (repeats (s.nodeTypes.map (·.name))).count name :=
      List.countP_congr fun a _ => by simp
    rw [count_map, hcount, count_repeats, count_map]
    rfl
  | _ => simp [count_map]

/-- Beside the cycle, every error is found as often as it is counted. -/
theorem count_errors :
    s.errors.count e = s.violations e + s.supertypeCycles.count e := by
  have hnodeTypes : (s.nodeTypes.map (List.count e ∘ (·.errors))) =
      s.nodeTypes.map (·.violations e) := List.map_congr_left fun t _ => t.count_errors
  rw [errors, List.count_append, List.count_append, List.count_flatMap, hnodeTypes,
    count_repeatedNodeTypes]
  cases e with
  | repeatedNodeType name => simp [violations, NodeType.violations]
  | _ => simp [violations]

theorem isCycle_of_mem (he : e ∈ s.supertypeCycles) : e.isCycle := by
  obtain ⟨cycle, -, rfl⟩ : ∃ cycle, s.supertypeGraph.findCycle? = some cycle ∧
      SchemaError.supertypeCycle cycle = e := by simpa [supertypeCycles] using he
  rfl

/-- The errors other than a cycle are those that are counted, and no more of them. -/
theorem count_errors_filter :
    (s.errors.filter (!·.isCycle)).count e = s.violations e := by
  by_cases he : e.isCycle
  · have hzero : s.violations e = 0 := by
      cases e with
      | supertypeCycle cycle => simp [violations, NodeType.violations]
      | _ => cases he
    rw [hzero]
    exact List.count_eq_zero_of_not_mem fun hmem => by simp [he] at hmem
  · rw [List.count_filter (by simpa using he), count_errors,
      List.count_eq_zero_of_not_mem (mt isCycle_of_mem he), Nat.add_zero]

theorem count_warnings (nodeType item : String) :
    s.warnings.count (.foreignPrimaryItem nodeType item) =
      s.nodeTypes.countP fun t =>
        t.name = nodeType ∧ t.primaryItemName = some item ∧ item ∉ t.items.map (·.name) := by
  rw [warnings, List.count_flatMap]
  induction s.nodeTypes with
  | nil => rfl
  | cons t rest ih =>
    rw [List.map_cons, List.sum_cons, ih, List.countP_cons, Function.comp_apply,
      t.count_warnings, Nat.add_comm]
    simp only [decide_eq_true_eq]

/-! ## Schemas in another order -/

/-- Edges lead from the node types of a name to their supertypes, where those are declared. -/
theorem edge_supertypeGraph :
    s.supertypeGraph.Edge a b ↔
      (∃ t ∈ s.nodeTypes, t.name = a ∧ b ∈ t.supertypes) ∧ ∃ u ∈ s.nodeTypes, u.name = b := by
  have hlookup (f : String → List String) (names : List String) :
      Graph.neighbours? (names.map fun name => (name, f name)) a =
        if a ∈ names then some (f a) else none := by
    rw [Graph.neighbours?]
    induction names with
    | nil => rfl
    | cons n rest ih =>
      rw [List.map_cons, List.lookup_cons]
      by_cases hn : a = n
      · subst hn
        simp
      · simp [hn, ih, beq_eq_false_iff_ne.2 hn]
  rw [Graph.Edge, supertypeGraph, hlookup]
  constructor
  · rintro ⟨ns, hns, hb⟩
    split at hns
    · cases hns
      simp only [List.mem_flatMap, List.mem_filter, List.mem_map, decide_eq_true_eq] at hb
      obtain ⟨t, ⟨ht, hname⟩, hb, hu⟩ := hb
      exact ⟨⟨t, ht, hname, hb⟩, hu⟩
    · cases hns
  · rintro ⟨⟨t, ht, rfl, hb⟩, u, hu, rfl⟩
    rw [if_pos (mem_firsts.2 (List.mem_map_of_mem ht))]
    refine ⟨_, rfl, ?_⟩
    simp only [List.mem_flatMap, List.mem_filter, List.mem_map, decide_eq_true_eq]
    exact ⟨t, ⟨ht, rfl⟩, hb, u, hu, rfl⟩

/-- What the order of the items plays no part in is the same in all node types. -/
theorem Rearranged.map_perm {α : Type} (h : s.Rearranged s') (f : NodeType → α)
    (hf : ∀ {t u : NodeType}, t.Rearranged u → f t = f u) :
    (s.nodeTypes.map f).Perm (s'.nodeTypes.map f) := by
  obtain ⟨nodeTypes, hperm, hitems⟩ := h
  have hmap : nodeTypes.map f = s'.nodeTypes.map f := by
    clear hperm
    generalize s'.nodeTypes = nodeTypes' at hitems
    induction hitems with
    | nil => rfl
    | cons hfirst _ ih => rw [List.map_cons, List.map_cons, hf hfirst, ih]
  exact hmap ▸ hperm.map f

theorem Rearranged.violations (h : s.Rearranged s') (e : SchemaError) :
    s.violations e = s'.violations e := by
  cases e with
  | repeatedNodeType name =>
    have hnames := (h.map_perm (·.name) fun h => h.name_eq.symm).count_eq name
    rw [count_map, count_map] at hnames
    rw [Schema.violations, Schema.violations, hnames]
  | _ => exact (h.map_perm _ fun h => h.violations _).sum_nat

theorem Rearranged.warnings (h : s.Rearranged s') : s.warnings.Perm s'.warnings := by
  refine List.perm_iff_count.2 fun w => ?_
  rw [Schema.warnings, Schema.warnings, List.count_flatMap, List.count_flatMap]
  exact (h.map_perm _ fun h => h.warnings w).sum_nat

theorem Rearranged.edge (h : s.Rearranged s') :
    s.supertypeGraph.Edge = s'.supertypeGraph.Edge := by
  -- All that the edges depend on is the names and the supertypes.
  have hexists (p : String × List String → Prop) :
      (∃ t ∈ s.nodeTypes, p (t.name, t.supertypes)) ↔
        ∃ t ∈ s'.nodeTypes, p (t.name, t.supertypes) := by
    have hperm := h.map_perm (fun t => (t.name, t.supertypes)) fun h => by rw [h.others]
    have := exists_congr fun x => and_congr_left fun _ : p x => hperm.mem_iff (a := x)
    simpa using this
  ext a b
  rw [edge_supertypeGraph, edge_supertypeGraph]
  exact and_congr (hexists fun x => x.1 = a ∧ b ∈ x.2) (hexists fun x => x.1 = b)

/-- A schema is valid if no error is counted in it and no node type extends itself. -/
theorem isValid_iff :
    s.isValid ↔ (∀ e, s.violations e = 0) ∧
      ¬ ∃ n, Relation.TransGen s.supertypeGraph.Edge n n := by
  rw [← Graph.isSome_findCycle?, isValid, List.isEmpty_iff]
  have hcycles : s.supertypeCycles = [] ↔ ¬ s.supertypeGraph.findCycle?.isSome := by
    rw [supertypeCycles]
    cases s.supertypeGraph.findCycle? <;> simp
  rw [← hcycles]
  constructor
  · intro h
    have hnil : s.supertypeCycles = [] := (List.append_eq_nil_iff.1 h).2
    refine ⟨fun e => ?_, hnil⟩
    rw [← count_errors_filter, h]
    rfl
  · rintro ⟨hzero, hnil⟩
    refine List.eq_nil_iff_forall_not_mem.2 fun e he => ?_
    have := List.count_pos_iff.2 he
    rw [count_errors, hzero, hnil] at this
    exact absurd this (Nat.lt_irrefl 0)

/-! ## The outcome of a check -/

/-- **What checking a schema finds.** Cycles apart, every error is found exactly as often as its
rule is broken, and every primary item that its node type does not define is warned of once. None
of this depends on the order of the node types or of their items, nor does whether a schema is
valid. -/
theorem errors_counted (s : Schema) :
    (∀ e, (s.errors.filter (!·.isCycle)).count e = s.violations e) ∧
      (∀ nodeType item, s.warnings.count (.foreignPrimaryItem nodeType item) =
        s.nodeTypes.countP fun t =>
          t.name = nodeType ∧ t.primaryItemName = some item ∧ item ∉ t.items.map (·.name)) ∧
      ∀ s', s.Rearranged s' →
        (s.errors.filter (!·.isCycle)).Perm (s'.errors.filter (!·.isCycle)) ∧
          s.warnings.Perm s'.warnings ∧ s.isValid = s'.isValid := by
  refine ⟨fun e => count_errors_filter, count_warnings, fun s' h => ⟨?_, h.warnings, ?_⟩⟩
  · refine List.perm_iff_count.2 fun e => ?_
    rw [count_errors_filter, count_errors_filter, h.violations]
  · rw [Bool.eq_iff_iff, isValid_iff, isValid_iff, h.edge]
    simp only [h.violations]

/-- A node type is declared three times, with three properties of one name. -/
theorem errors_counted_rearranged :
    let p : Property := { name := "p", defaultValues := ["1", "2"] }
    let any : ChildNode := { name := "*", isAutocreated := true }
    let t : NodeType :=
      { name := "a", supertypes := ["a"], primaryItemName := some "q",
        properties := [p, { name := "p" }, p], childNodes := [any, { name := "p" }] }
    let u : NodeType :=
      { t with properties := [{ name := "p" }, p, p], childNodes := [{ name := "p" }, any] }
    let s : Schema := { nodeTypes := [t, t, { name := "b" }, t] }
    let s' : Schema := { nodeTypes := [{ name := "b" }, u, t, u] }
    s.Rearranged s' ∧
      ((s.errors.filter (!·.isCycle)).Perm (s'.errors.filter (!·.isCycle)) ∧
        s.warnings.Perm s'.warnings ∧ s.isValid = s'.isValid) ∧
      s.violations (.repeatedNodeType "a") = 2 ∧ s.violations (.repeatedProperty "a" "p") = 3 ∧
      s.violations (.severalDefaults "a" "p" 2) = 6 := by
  intro p any t u s s'
  have hself (t : NodeType) : t.Rearranged t := ⟨.refl _, .refl _, rfl⟩
  have ht : t.Rearranged u := ⟨.swap .., .swap .., rfl⟩
  have hs : s.Rearranged s' :=
    ⟨[{ name := "b" }, t, t, t], by decide,
      .cons (hself _) (.cons ht (.cons (hself _) (.cons ht .nil)))⟩
  exact ⟨hs, (errors_counted s).2.2 s' hs, by decide, by decide, by decide⟩

end Schema

end Cnd
