import Cnd.Proofs.Schema.Check

/-!
# Supertypes that lead back to a node type

A node type inherits from the supertypes that some declaration of it lists, as far as those are
declared themselves; it does not matter which of the declarations of a name lists them. The check
reports node types that inherit from themselves with one error, however many there are
(`Schema.supertypeCycle_reported`), and the error names a way around that meets no node type twice.
-/

namespace Cnd

variable {s : Schema} {e : SchemaError} {cycle : List String}

/-- The messages of all rules but one begin with the words for a node type. -/
theorem SchemaError.nodeType_prefix_message (he : ¬ e.isCycle) :
    "Node type '".toList <+: e.message.toList := by
  cases e with
  | supertypeCycle cycle => exact absurd rfl he
  | _ =>
    delta message
    dsimp only
    simp only [String.toList_append, List.append_assoc]
    exact List.prefix_append _ _

theorem SchemaError.message_supertypeCycle (cycle : List String) :
    (supertypeCycle cycle).message =
      "Supertype cycle detected: " ++ " -> ".intercalate cycle ++ "." :=
  rfl

/-- The message tells whether supertypes lead back. -/
theorem SchemaError.isCycle_iff_message :
    e.isCycle ↔ "Supertype cycle detected".toList <+: e.message.toList := by
  constructor
  · intro he
    cases e with
    | supertypeCycle cycle =>
      have hwords : "Supertype cycle detected".toList <+: "Supertype cycle detected: ".toList := by
        decide
      rw [message_supertypeCycle, String.toList_append, String.toList_append, List.append_assoc]
      exact hwords.trans (List.prefix_append _ _)
    | _ => cases he
  · intro hprefix
    by_contra he
    -- The two beginnings differ in their first letter.
    have hwords := List.prefix_or_prefix_of_prefix hprefix (nodeType_prefix_message he)
    revert hwords
    decide

namespace Schema

/-- A declaration of the first name lists the second one, and that one is declared too. -/
def Inherits (s : Schema) (a b : String) : Prop :=
  (∃ t ∈ s.nodeTypes, t.name = a ∧ b ∈ t.supertypes) ∧ ∃ u ∈ s.nodeTypes, u.name = b

/-- A way along supertypes back to where it began, which meets no node type twice in between. -/
def IsSupertypeCycle (s : Schema) (cycle : List String) : Prop :=
  ∃ v inner, cycle = v :: inner ++ [v] ∧ (v :: inner).Nodup ∧ cycle.IsChain s.Inherits

instance {a b : String} : Decidable (s.Inherits a b) :=
  inferInstanceAs (Decidable ((∃ t ∈ s.nodeTypes, _) ∧ ∃ u ∈ s.nodeTypes, _))

theorem edge_eq_inherits : s.supertypeGraph.Edge = s.Inherits := by
  ext a b
  exact edge_supertypeGraph

theorem isSupertypeCycle_iff : s.IsSupertypeCycle cycle ↔ s.supertypeGraph.IsCycle cycle := by
  rw [IsSupertypeCycle, Graph.IsCycle, edge_eq_inherits]

/-- No rule but the one about supertypes reports that they lead back. -/
theorem filter_errors_isCycle : s.errors.filter (·.isCycle) = s.supertypeCycles := by
  have hnodeTypes : ∀ e ∈ s.repeatedNodeTypes ++ s.nodeTypes.flatMap (·.errors), ¬ e.isCycle := by
    intro e he
    rcases List.mem_append.1 he with he | he
    · obtain ⟨name, -, rfl⟩ := List.mem_map.1 he
      exact Bool.false_ne_true
    · obtain ⟨t, -, he⟩ := List.mem_flatMap.1 he
      intro hcycle
      -- In a node type by itself no such error is counted.
      have hcount := List.count_pos_iff.2 he
      rw [t.count_errors] at hcount
      cases e with
      | supertypeCycle cycle => exact Nat.lt_irrefl 0 hcount
      | _ => cases hcycle
  rw [errors, List.filter_append, List.filter_eq_nil_iff.2 hnodeTypes, List.nil_append]
  exact List.filter_eq_self.2 fun e he => isCycle_of_mem he

/-- **Cycles are found when there are any.** The search of a graph comes to nothing exactly if no
node leads back to itself, and otherwise to a cycle. So the check of a schema reports supertypes
that lead back exactly if there are some, with one error that names a way around. -/
theorem supertypeCycle_reported :
    (∀ g : Graph, (g.findCycle? = none ↔ ¬ ∃ n, Relation.TransGen g.Edge n n) ∧
      ∀ cycle, g.findCycle? = some cycle → g.IsCycle cycle) ∧
    ∀ s : Schema,
      let reported := s.errors.filter fun e =>
        decide ("Supertype cycle detected".toList <+: e.message.toList)
      ((∃ n, Relation.TransGen s.Inherits n n) →
        ∃ cycle, s.IsSupertypeCycle cycle ∧ reported = [.supertypeCycle cycle]) ∧
      ((¬ ∃ n, Relation.TransGen s.Inherits n n) → reported = []) := by
  refine ⟨fun g => ⟨?_, fun cycle => Graph.isCycle_of_findCycle?⟩, fun s => ?_⟩
  · rw [← Graph.isSome_findCycle?, Option.not_isSome_iff_eq_none]
  · have hreported : (s.errors.filter fun e =>
        decide ("Supertype cycle detected".toList <+: e.message.toList)) = s.supertypeCycles := by
      rw [← filter_errors_isCycle]
      exact List.filter_congr fun e _ =>
        Bool.eq_iff_iff.2 (decide_eq_true_iff.trans SchemaError.isCycle_iff_message.symm)
    simp only [hreported, ← edge_eq_inherits, ← Graph.isSome_findCycle?]
    constructor
    · intro h
      obtain ⟨cycle, hcycle⟩ := Option.isSome_iff_exists.1 h
      refine ⟨cycle, isSupertypeCycle_iff.2 (Graph.isCycle_of_findCycle? hcycle), ?_⟩
      rw [supertypeCycles, hcycle]
      rfl
    · intro h
      rw [supertypeCycles, Option.not_isSome_iff_eq_none.1 h]
      rfl

/-- The way leads on from the second declaration of a name, past a supertype without any. -/
theorem supertypeCycle_reported_indirect :
    let s : Schema :=
      { nodeTypes :=
          [{ name := "a" }, { name := "b", supertypes := ["z", "c"] },
            { name := "a", supertypes := ["b"] }, { name := "c", supertypes := ["a"] }] }
    (∃ n, Relation.TransGen s.Inherits n n) ∧
      ∃ cycle, s.IsSupertypeCycle cycle ∧
        (s.errors.filter fun e =>
          decide ("Supertype cycle detected".toList <+: e.message.toList)) =
            [.supertypeCycle cycle] := by
  intro s
  have hab : s.Inherits "a" "b" := by decide
  have hbc : s.Inherits "b" "c" := by decide
  have hca : s.Inherits "c" "a" := by decide
  have haa : Relation.TransGen s.Inherits "a" "a" := .tail (.tail (.single hab) hbc) hca
  exact ⟨⟨"a", haa⟩, (supertypeCycle_reported.2 s).1 ⟨"a", haa⟩⟩

example :
    let s : Schema :=
      { nodeTypes := [{ name := "a", supertypes := ["b"] }, { name := "b", supertypes := ["a"] }] }
    s.errors = [.supertypeCycle ["a", "b", "a"]] := by
  cbv

end Schema

end Cnd
