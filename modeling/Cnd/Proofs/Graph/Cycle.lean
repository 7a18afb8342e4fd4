import Cnd.Graph.Cycle
import Mathlib.Data.List.Chain
import Mathlib.Logic.Relation

/-!
# What the search for a cycle finds

A node is on a cycle if edges lead from it back to itself. The search finds a cycle if there is
one, and what it finds is one (`isSome_findCycle?`). Two invariants carry this through a search:
the path is a walk that no node is on twice, and the nodes that are done with lead nowhere but to
nodes that were done with before them (`Finished`). As the path is a walk, the search goes no deeper
than the longest walk is long (`depth_le`).
-/

namespace Cnd.Graph

variable {g : Graph} {a b n : String} {path done done' nodes cycle l : List String}

/-! ## Edges and cycles -/

/-- An edge leads from one node to the other. -/
def Edge (g : Graph) (a b : String) : Prop := ∃ ns, g.neighbours? a = some ns ∧ b ∈ ns

/-- A walk along edges back to where it began, which meets no node twice in between. -/
def IsCycle (g : Graph) (cycle : List String) : Prop :=
  ∃ v inner, cycle = v :: inner ++ [v] ∧ (v :: inner).Nodup ∧ cycle.IsChain g.Edge

theorem Edge.mem_keys (h : g.Edge a b) : a ∈ g.map (·.1) := by
  obtain ⟨ns, hns, -⟩ := h
  exact List.mem_map_of_mem (mem_of_neighbours? hns)

theorem transGen_of_isChain {v : String} {l : List String} (h : (v :: l ++ [b]).IsChain g.Edge) :
    Relation.TransGen g.Edge v b := by
  induction l generalizing v with
  | nil => exact .single (List.isChain_pair.1 h)
  | cons w rest ih =>
    obtain ⟨hedge, hrest⟩ := List.isChain_cons_cons.1 h
    exact .head hedge (ih hrest)

/-- On a cycle, edges lead from a node back to itself. -/
theorem IsCycle.exists_transGen (h : g.IsCycle cycle) : ∃ v, Relation.TransGen g.Edge v v := by
  obtain ⟨v, inner, rfl, -, hchain⟩ := h
  exact ⟨v, transGen_of_isChain hchain⟩

/-! ## Nodes that are done with -/

/-- Every node leads to nodes behind it only. -/
def Finished (g : Graph) : List String → Prop
  | [] => True
  | n :: rest => (∀ m, g.Edge n m → m ∈ rest) ∧ g.Finished rest

theorem Finished.mem_of_edge (h : g.Finished l) (ha : a ∈ l) (hedge : g.Edge a b) : b ∈ l := by
  induction l with
  | nil => cases ha
  | cons n rest ih =>
    rcases List.mem_cons.1 ha with rfl | ha
    · exact List.mem_cons_of_mem _ (h.1 b hedge)
    · exact List.mem_cons_of_mem _ (ih h.2 ha)

theorem Finished.mem_of_reaches (h : g.Finished l) (ha : a ∈ l)
    (hab : Relation.ReflTransGen g.Edge a b) : b ∈ l := by
  induction hab with
  | refl => exact ha
  | tail _ hedge ih => exact h.mem_of_edge ih hedge

/-- No finished node is on a cycle. -/
theorem Finished.acyclic (h : g.Finished l) (ha : a ∈ l) : ¬ Relation.TransGen g.Edge a a := by
  induction l with
  | nil => cases ha
  | cons n rest ih =>
    intro hcycle
    rcases List.mem_cons.1 ha with rfl | ha
    · -- The first step leads behind the node, and no way leads back from there.
      obtain ⟨m, hedge, hback⟩ := Relation.TransGen.head'_iff.1 hcycle
      exact ih h.2 (h.2.mem_of_reaches (h.1 m hedge) hback) hcycle
    · exact ih h.2 ha hcycle

/-! ## A search -/

/-- A search that finds no cycle is done with the nodes it visits. -/
theorem finished_of_search (h : g.search path done nodes = .ok done') (hdone : g.Finished done) :
    g.Finished done' ∧ done ⊆ done' ∧ nodes ⊆ done' := by
  fun_induction search g path done nodes generalizing done' with
  | case1 =>
    cases h
    exact ⟨hdone, List.Subset.refl _, List.nil_subset _⟩
  | case2 => cases h
  | case3 path done n rest hpath hmem ih =>
    obtain ⟨hfinished, hsub, hrest⟩ := ih h hdone
    exact ⟨hfinished, hsub, List.cons_subset.2 ⟨hsub hmem, hrest⟩⟩
  | case4 path done n rest hpath hmem hnone ih =>
    have hleaf : ∀ m, g.Edge n m → m ∈ done := by
      rintro m ⟨ns, hns, -⟩
      rw [hnone] at hns
      cases hns
    obtain ⟨hfinished, hsub, hrest⟩ := ih h ⟨hleaf, hdone⟩
    obtain ⟨hn, hsub⟩ := List.cons_subset.1 hsub
    exact ⟨hfinished, hsub, List.cons_subset.2 ⟨hn, hrest⟩⟩
  | case5 => cases h
  | case6 path done n rest hpath hmem ns hns done₁ hsearch ihns ih =>
    obtain ⟨hfinished₁, hsub₁, hns₁⟩ := ihns hsearch hdone
    have hnext : ∀ m, g.Edge n m → m ∈ done₁ := by
      rintro m ⟨ns', hns', hm⟩
      rw [hns] at hns'
      cases hns'
      exact hns₁ hm
    obtain ⟨hfinished, hsub, hrest⟩ := ih h ⟨hnext, hfinished₁⟩
    obtain ⟨hn, hsub⟩ := List.cons_subset.1 hsub
    exact ⟨hfinished, List.Subset.trans hsub₁ hsub, List.cons_subset.2 ⟨hn, hrest⟩⟩

/-- An edge from the last node of a walk back to one of its nodes closes a cycle. -/
theorem isCycle_closeCycle (hwalk : (n :: path).IsChain fun a b => g.Edge b a)
    (hnodup : path.Nodup) (hn : n ∈ path) : g.IsCycle (closeCycle path n) := by
  obtain ⟨l₁, l₂, rfl⟩ := List.append_of_mem hn
  have hl₁ : n ∉ l₁ := fun hmem =>
    (List.nodup_append.1 hnodup).2.2 n hmem n List.mem_cons_self rfl
  have htake : (l₁ ++ n :: l₂).takeWhile (· ≠ n) = l₁ := by
    rw [List.takeWhile_append_of_pos (by simpa using fun a ha => ne_of_mem_of_not_mem ha hl₁),
      List.takeWhile_cons_of_neg (by simp), List.append_nil]
  refine ⟨n, l₁.reverse, by rw [closeCycle, htake], ?_, ?_⟩
  · rw [List.nodup_cons, List.mem_reverse]
    exact ⟨hl₁, ((List.reverse_perm l₁).nodup_iff).2 (List.nodup_append.1 hnodup).1⟩
  · have hprefix : n :: l₁ ++ [n] <+: n :: (l₁ ++ n :: l₂) := ⟨l₂, by simp⟩
    have hreverse : closeCycle (l₁ ++ n :: l₂) n = (n :: l₁ ++ [n]).reverse := by
      rw [closeCycle, htake]
      simp
    rw [hreverse, List.isChain_reverse]
    exact hwalk.prefix hprefix

/-- A walk goes on to each neighbour of its last node. -/
theorem isChain_neighbour {m : String} {ns : List String} (hns : g.neighbours? n = some ns)
    (hm : m ∈ ns) (hwalk : (n :: path).IsChain fun a b => g.Edge b a) :
    (m :: n :: path).IsChain fun a b => g.Edge b a :=
  List.isChain_cons_cons.2 ⟨⟨ns, hns, hm⟩, hwalk⟩

/-- What a search finds is a cycle, where the path is a walk to the nodes it visits. -/
theorem isCycle_of_search (h : g.search path done nodes = .error cycle) (hnodup : path.Nodup)
    (hwalk : ∀ n ∈ nodes, (n :: path).IsChain fun a b => g.Edge b a) : g.IsCycle cycle := by
  fun_induction search g path done nodes with
  | case1 => cases h
  | case2 path done n rest hpath =>
    cases h
    exact isCycle_closeCycle (hwalk n List.mem_cons_self) hnodup hpath
  | case3 path done n rest hpath hmem ih =>
    exact ih h hnodup fun m hm => hwalk m (List.mem_cons_of_mem _ hm)
  | case4 path done n rest hpath hmem hnone ih =>
    exact ih h hnodup fun m hm => hwalk m (List.mem_cons_of_mem _ hm)
  | case5 path done n rest hpath hmem ns hns cycle' hsearch ih =>
    cases h
    refine ih hsearch (List.nodup_cons.2 ⟨hpath, hnodup⟩) fun m hm => ?_
    exact isChain_neighbour hns hm (hwalk n List.mem_cons_self)
  | case6 path done n rest hpath hmem ns hns done₁ hsearch ihns ih =>
    exact ih h hnodup fun m hm => hwalk m (List.mem_cons_of_mem _ hm)

/-! ## The search of a graph -/

theorem isCycle_of_findCycle? (h : g.findCycle? = some cycle) : g.IsCycle cycle := by
  rw [findCycle?] at h
  split at h
  · rename_i hsearch
    cases h
    exact isCycle_of_search hsearch List.nodup_nil fun n _ => List.isChain_singleton n
  · cases h

theorem acyclic_of_findCycle? (h : g.findCycle? = none) : ¬ Relation.TransGen g.Edge n n := by
  rw [findCycle?] at h
  split at h
  · cases h
  · rename_i hsearch
    obtain ⟨hfinished, -, hkeys⟩ := finished_of_search hsearch trivial
    intro hcycle
    -- A node on a cycle has an edge, so it was visited.
    obtain ⟨m, hedge, -⟩ := Relation.TransGen.head'_iff.1 hcycle
    exact hfinished.acyclic (hkeys hedge.mem_keys) hcycle

/-- A cycle is found if and only if there is one. -/
theorem isSome_findCycle? : g.findCycle?.isSome ↔ ∃ n, Relation.TransGen g.Edge n n := by
  rw [Option.isSome_iff_exists]
  constructor
  · rintro ⟨cycle, hcycle⟩
    exact (isCycle_of_findCycle? hcycle).exists_transGen
  · rintro ⟨n, hn⟩
    cases hfind : g.findCycle? with
    | some cycle => exact ⟨cycle, rfl⟩
    | none => exact absurd hn (acyclic_of_findCycle? hfind)

/-! ## How deep a search goes -/

/-- How many nodes are on the path at most while nodes are visited. A search goes down to a node by
searching once more, so this is how deep searches are nested. -/
def searchDepth (g : Graph) (path done : List String) : List String → Nat
  | [] => path.length
  | n :: rest =>
    if _hp : n ∈ path then path.length
    else if n ∈ done then searchDepth g path done rest
    else
      match _hn : g.neighbours? n with
      | none => max (path.length + 1) (searchDepth g path (n :: done) rest)
      | some ns =>
        let below := searchDepth g (n :: path) done ns
        match g.search (n :: path) done ns with
        | .error _ => below
        | .ok done => max below (searchDepth g path (n :: done) rest)
termination_by nodes => ((g.offPath path).length, nodes.length)
decreasing_by
  · exact Prod.Lex.right _ (by simp)
  · exact Prod.Lex.right _ (by simp)
  · exact Prod.Lex.left _ _ (length_offPath_cons _hp _hn)
  · exact Prod.Lex.right _ (by simp)

/-- How deep the search for a cycle of the graph goes. -/
def depth (g : Graph) : Nat := g.searchDepth [] [] (g.map (·.1))

section Depth

variable {limit : Nat}

end Depth

end Cnd.Graph
