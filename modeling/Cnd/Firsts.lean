/-!
# First occurrences

A list of names counts every name once, at the place where it comes first.
-/

namespace Cnd

/-- The list without its repetitions: every member stays at its first place. -/
def firsts (l : List String) : List String :=
  l.foldl (fun done s => if s ∈ done then done else done ++ [s]) []

theorem mem_foldl_firsts {l done : List String} {x : String} :
    x ∈ l.foldl (fun done s => if s ∈ done then done else done ++ [s]) done ↔
      x ∈ done ∨ x ∈ l := by
  induction l generalizing done with
  | nil => simp
  | cons s rest ih =>
    rw [List.foldl_cons, ih]
    split
    · rename_i h
      constructor
      · rintro (hx | hx) <;> simp [hx]
      · rintro (hx | hx)
        · exact .inl hx
        · rcases List.mem_cons.1 hx with rfl | hx
          · exact .inl h
          · exact .inr hx
    · simp [or_assoc]

theorem nodup_foldl_firsts {l done : List String} (h : done.Nodup) :
    (l.foldl (fun done s => if s ∈ done then done else done ++ [s]) done).Nodup := by
  induction l generalizing done with
  | nil => exact h
  | cons s rest ih =>
    rw [List.foldl_cons]
    refine ih ?_
    split
    · exact h
    · rename_i hs
      simp only [List.nodup_append, List.mem_singleton, h, true_and]
      exact ⟨by simp, fun a ha b hb hab => hs (by rw [← hb, ← hab]; exact ha)⟩

/-- Nothing is lost and nothing is added. -/
@[simp] theorem mem_firsts {l : List String} {x : String} : x ∈ firsts l ↔ x ∈ l := by
  simp [firsts, mem_foldl_firsts]

theorem nodup_firsts (l : List String) : (firsts l).Nodup := nodup_foldl_firsts List.nodup_nil

theorem foldl_firsts_of_nodup {l done : List String} (h : (done ++ l).Nodup) :
    l.foldl (fun done s => if s ∈ done then done else done ++ [s]) done = done ++ l := by
  induction l generalizing done with
  | nil => simp
  | cons s rest ih =>
    have hs : s ∉ done := fun hmem => (List.nodup_append.1 h).2.2 s hmem s List.mem_cons_self rfl
    rw [List.foldl_cons, if_neg hs, ih (by simpa using h)]
    simp

/-- A list without repetitions stays as it is. -/
theorem firsts_of_nodup {l : List String} (h : l.Nodup) : firsts l = l :=
  foldl_firsts_of_nodup h

theorem firsts_eq_self_iff {l : List String} : firsts l = l ↔ l.Nodup :=
  ⟨fun h => h ▸ nodup_firsts l, firsts_of_nodup⟩

end Cnd
