import Cnd.Document.Meaning

/-!
# Kinds of phrases

The kind of a phrase is the attribute that it sets. Phrases of different kinds may change places:
as long as those of each kind stay in their order, the effect of all of them together is the same
(`foldl_reordered`).
-/

namespace Cnd.Document

/-! ## Kinds -/

inductive NodeTypeOption.Kind where
  | orderable
  | mixin
  | abstract
  | queryable
  | primaryItem
deriving DecidableEq, Repr

def NodeTypeOption.kind : NodeTypeOption → NodeTypeOption.Kind
  | orderable _ => .orderable
  | mixin _ => .mixin
  | abstract _ => .abstract
  | queryable _ => .queryable
  | primaryItem _ => .primaryItem

inductive ItemAttribute.Kind where
  | autocreated
  | mandatory
  | protectedItem
  | primary
  | onParentVersion
deriving DecidableEq, Repr

def ItemAttribute.kind : ItemAttribute → ItemAttribute.Kind
  | autocreated _ => .autocreated
  | mandatory _ => .mandatory
  | protectedItem _ => .protectedItem
  | primary => .primary
  | onParentVersion _ => .onParentVersion

inductive PropertyAttribute.Kind where
  | item (k : ItemAttribute.Kind)
  | multiple
  | queryOperators
  | noFullText
  | noQueryOrder
deriving DecidableEq, Repr

def PropertyAttribute.kind : PropertyAttribute → PropertyAttribute.Kind
  | item a => .item a.kind
  | multiple _ => .multiple
  | queryOperators _ => .queryOperators
  | noFullText _ => .noFullText
  | noQueryOrder _ => .noQueryOrder

inductive ChildNodeAttribute.Kind where
  | item (k : ItemAttribute.Kind)
  | sameNameSiblings
deriving DecidableEq, Repr

def ChildNodeAttribute.kind : ChildNodeAttribute → ChildNodeAttribute.Kind
  | item a => .item a.kind
  | sameNameSiblings _ => .sameNameSiblings

/-! ## Reordering -/

section Reordered

variable {α β κ : Type} [DecidableEq κ]

/-- Both lists have the same entries, and those of each kind in the same order. -/
def Reordered (kind : α → κ) (l m : List α) : Prop :=
  ∀ k, l.filter (kind · = k) = m.filter (kind · = k)

namespace Reordered

variable {kind : α → κ} {l m : List α}

theorem mem_iff (h : Reordered kind l m) (x : α) : x ∈ l ↔ x ∈ m := by
  have hkind : ∀ n : List α, x ∈ n ↔ x ∈ n.filter (kind · = kind x) := by simp
  rw [hkind l, h, ← hkind m]

/-- A map that keeps the kinds keeps the order within each of them. -/
theorem map {f : β → α} {l m : List β} (h : Reordered (fun x => kind (f x)) l m) :
    Reordered kind (l.map f) (m.map f) := by
  intro k
  rw [List.filter_map, List.filter_map]
  exact congrArg (List.map f) (h k)

theorem eq_nil (h : Reordered kind [] m) : m = [] :=
  List.eq_nil_iff_forall_not_mem.2 fun x hx => List.not_mem_nil ((h.mem_iff x).2 hx)

/-- The first entry of the one list is the first of its kind in the other. -/
theorem exists_append {x : α} (h : Reordered kind (x :: l) m) :
    ∃ front back, m = front ++ x :: back ∧ (∀ y ∈ front, kind y ≠ kind x) ∧
      Reordered kind l (front ++ back) := by
  have hx := h (kind x)
  rw [List.filter_cons_of_pos (by simp), eq_comm, List.filter_eq_cons_iff] at hx
  obtain ⟨front, back, rfl, hfront, -, hback⟩ := hx
  have hfront : ∀ y ∈ front, kind y ≠ kind x := by simpa using hfront
  refine ⟨front, back, rfl, hfront, fun k => ?_⟩
  by_cases hk : kind x = k
  · subst hk
    have hnone : front.filter (kind · = kind x) = [] := by simpa using hfront
    rw [List.filter_append, hnone, hback, List.nil_append]
  · have hother := h k
    rwa [List.filter_cons_of_neg (by simpa using hk), List.filter_append,
      List.filter_cons_of_neg (by simpa using hk), ← List.filter_append] at hother

theorem perm (h : Reordered kind l m) : l.Perm m := by
  induction l generalizing m with
  | nil => rw [h.eq_nil]
  | cons x l ih =>
    obtain ⟨front, back, rfl, -, hrest⟩ := h.exists_append
    exact ((ih hrest).cons x).trans List.perm_middle.symm

end Reordered

end Reordered

/-! ## Steps that may change places -/

section Steps

variable {α σ κ : Type} {kind : α → κ} {step : σ → α → σ}

/-- A step may be taken in front of all steps of other kinds. -/
theorem foldl_step_comm (hswap : ∀ s x y, kind x ≠ kind y → step (step s x) y = step (step s y) x)
    {x : α} {l : List α} (hl : ∀ y ∈ l, kind y ≠ kind x) (s : σ) :
    l.foldl step (step s x) = step (l.foldl step s) x := by
  induction l generalizing s with
  | nil => rfl
  | cons y l ih =>
    obtain ⟨hy, hl⟩ := List.forall_mem_cons.1 hl
    rw [List.foldl_cons, List.foldl_cons, ← hswap s y x hy, ih hl]

/-- Steps of different kinds that may change places pairwise may be reordered. -/
theorem foldl_reordered [DecidableEq κ]
    (hswap : ∀ s x y, kind x ≠ kind y → step (step s x) y = step (step s y) x)
    {l m : List α} (h : Reordered kind l m) (s : σ) : l.foldl step s = m.foldl step s := by
  induction l generalizing m s with
  | nil => rw [h.eq_nil]
  | cons x l ih =>
    obtain ⟨front, back, rfl, hfront, hrest⟩ := h.exists_append
    calc (x :: l).foldl step s
      _ = (front ++ back).foldl step (step s x) := ih hrest (step s x)
      _ = back.foldl step (front.foldl step (step s x)) := List.foldl_append
      _ = back.foldl step (step (front.foldl step s) x) := by
        rw [foldl_step_comm hswap hfront]
      _ = (front ++ x :: back).foldl step s := by rw [List.foldl_append, List.foldl_cons]

end Steps

/-! ## Effects of phrases -/

theorem NodeTypeOption.apply_comm (t : NodeType) (o o' : NodeTypeOption) (h : o.kind ≠ o'.kind) :
    o'.apply (o.apply t) = o.apply (o'.apply t) := by
  rcases o with _ | _ | _ | _ | (_ | _) <;> rcases o' with _ | _ | _ | _ | (_ | _) <;>
    first | rfl | exact absurd rfl h

theorem ItemAttribute.apply_comm (i : Item) (a a' : ItemAttribute) (h : a.kind ≠ a'.kind) :
    a'.apply (a.apply i) = a.apply (a'.apply i) := by
  rcases a with _ | _ | _ | _ | (_ | _) <;> rcases a' with _ | _ | _ | _ | (_ | _) <;>
    first | rfl | exact absurd rfl h

theorem PropertyAttribute.apply_comm (p : Property) (a a' : PropertyAttribute)
    (h : a.kind ≠ a'.kind) : a'.apply (a.apply p) = a.apply (a'.apply p) := by
  rcases a with a | _ | (_ | _) | (_ | _) | (_ | _) <;>
    rcases a' with a' | _ | (_ | _) | (_ | _) | (_ | _) <;>
    first
    | rfl
    | exact absurd rfl h
    | skip
  -- Two attributes of the item that the property is.
  have hkind : a.kind ≠ a'.kind := fun hkind => h (congrArg Kind.item hkind)
  exact congrArg (fun i => { p with toItem := i }) (a.apply_comm p.toItem a' hkind)

theorem ChildNodeAttribute.apply_comm (c : ChildNode) (a a' : ChildNodeAttribute)
    (h : a.kind ≠ a'.kind) : a'.apply (a.apply c) = a.apply (a'.apply c) := by
  cases a with
  | sameNameSiblings variant =>
    cases a' with
    | sameNameSiblings variant' => exact absurd rfl h
    | item a' => rfl
  | item a =>
    cases a' with
    | sameNameSiblings variant' => rfl
    | item a' =>
      have hkind : a.kind ≠ a'.kind := fun hkind => h (congrArg Kind.item hkind)
      exact congrArg (fun i => { c with toItem := i }) (a.apply_comm c.toItem a' hkind)

end Cnd.Document
