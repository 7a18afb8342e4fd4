/-!
# Cycles in a graph

A depth-first search for a cycle. The search keeps the path it stands on, the latest node
first, and the nodes it is done with, from which no cycle can be reached. Each step either
shortens the list of nodes to visit or adds a node with edges to the path, so the search
ends.
-/

namespace Cnd

/-- A directed graph: the nodes that have edges, in order, and the nodes those lead to. -/
abbrev Graph := List (String × List String)

namespace Graph

/-- Where the edges of a node lead to, if it has any. -/
def neighbours? (g : Graph) (node : String) : Option (List String) := g.lookup node

/-- The nodes with edges that are not on the path. -/
def offPath (g : Graph) (path : List String) : List (String × List String) :=
  g.filter fun e => e.1 ∉ path

/-- The cycle that an edge from the path back to `node` closes, from `node` to `node`. -/
def closeCycle (path : List String) (node : String) : List String :=
  node :: (path.takeWhile (· ≠ node)).reverse ++ [node]

theorem offPath_cons (g : Graph) (path : List String) (node : String) :
    g.offPath (node :: path) = (g.offPath path).filter fun e => e.1 ≠ node := by
  simp [offPath, List.filter_filter]

theorem mem_of_neighbours? {g : Graph} {node : String} {ns : List String}
    (h : g.neighbours? node = some ns) : (node, ns) ∈ g := by
  induction g with
  | nil => simp [neighbours?] at h
  | cons e rest ih =>
    rw [neighbours?, List.lookup_cons] at h
    split at h
    · rename_i he
      cases h
      rw [eq_of_beq he]
      exact List.mem_cons_self
    · exact List.mem_cons_of_mem _ (ih h)

/-- Going to a node with edges leaves fewer of them off the path. -/
theorem length_offPath_cons {g : Graph} {path ns : List String} {node : String}
    (hn : node ∉ path) (h : g.neighbours? node = some ns) :
    (g.offPath (node :: path)).length < (g.offPath path).length := by
  rw [offPath_cons, List.length_filter_lt_length_iff_exists]
  refine ⟨(node, ns), ?_, by simp⟩
  simp [offPath, mem_of_neighbours? h, hn]

/-- Visits nodes in order: the first cycle that is met, or the nodes that are done with. -/
def search (g : Graph) (path done : List String) : List String → Except (List String) (List String)
  | [] => .ok done
  | n :: rest =>
    if _hp : n ∈ path then .error (closeCycle path n)
    else if n ∈ done then search g path done rest
    else
      match _hn : g.neighbours? n with
      | none => search g path (n :: done) rest
      | some ns =>
        match search g (n :: path) done ns with
        | .error cycle => .error cycle
        | .ok done => search g path (n :: done) rest
termination_by nodes => ((g.offPath path).length, nodes.length)
decreasing_by
  · exact Prod.Lex.right _ (by simp)
  · exact Prod.Lex.right _ (by simp)
  · exact Prod.Lex.left _ _ (length_offPath_cons _hp _hn)
  · exact Prod.Lex.right _ (by simp)

/-- A cycle of the graph, its first node repeated at the end, if there is one. -/
def findCycle? (g : Graph) : Option (List String) :=
  match g.search [] [] (g.map (·.1)) with
  | .error cycle => some cycle
  | .ok _ => none

end Graph

end Cnd
