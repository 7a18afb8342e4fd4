import Cnd.Proofs.File.Tree
import Cnd.Proofs.Outcome

/-!
# Files that are written again

What is read from a path is known from the tree (`FileTree.textOf`). A file that is there already
and gets another content stands in nobody's way: every path leads where it led before, and only
those that lead to the file find something new there (`contentOf_rewrite`). So a text that has been
written is read again as it is, and can be written again to no effect (`writeText_again`).
-/

namespace Cnd.FileTree

variable {t t' : FileTree} {here place : Place} {parts : List String} {p : Path}
variable {old new bytes : ByteArray} {s s' : String}

/-! ## Reading -/

/-- What is read from a path, or why nothing is. -/
def textOf (t : FileTree) (p : Path) : Except ReadError String :=
  if p.hasNul then .error (.file .nulInPath)
  else
    match t.contentOf p with
    | .ok bytes => (textOfBytes bytes).mapError .encoding
    | .error reason => .error (.file (.refused ⟨reason, p⟩))

/-- Reading tells the text of a file and changes nothing. -/
theorem readText_run_eq (t : FileTree) (p : Path) :
    (FileSystem.readText p : StateM FileTree _).run t = (t.textOf p, t) := by
  rw [textOf, FileSystem.readText, FileSystem.readBytes]
  cases hnul : p.hasNul with
  | true =>
    rw [FileSystem.attempt, if_pos hnul]
    rfl
  | false =>
    have hrun : (FileSystem.contentOf p : StateM FileTree _).run t = (t.contentOf p, t) := rfl
    cases hcontent : t.contentOf p with
    | ok bytes =>
      rw [hcontent] at hrun
      rw [bind_run (attempt_ok hnul hrun)]
      rfl
    | error reason =>
      rw [hcontent] at hrun
      rw [bind_run (attempt_error hnul hrun)]
      rfl

/-- A text is read where a path leads to a file with it. -/
theorem textOf_eq_ok :
    t.textOf p = .ok s ↔
      p.hasNul = false ∧ ∃ bytes, t.contentOf p = .ok bytes ∧ textOfBytes bytes = .ok s := by
  rw [textOf]
  cases p.hasNul with
  | true => simp
  | false =>
    cases t.contentOf p with
    | error reason => simp
    | ok bytes => simp [Outcome.mapError_eq_ok_iff]

theorem contentOf_eq_ok :
    t.contentOf p = .ok bytes ↔
      ∃ place, t.locate p = .ok place ∧ t.at? place = some (.file bytes) := by
  rw [contentOf]
  cases t.locate p with
  | error reason => simp [bind, Except.bind]
  | ok place =>
    simp only [bind, Except.bind, Except.ok.injEq, exists_eq_left']
    cases t.at? place with
    | none => simp
    | some e => cases e <;> simp

/-! ## Writing -/

theorem putEntry_putEntry {e f : Entry} {l : List (Place × Entry)} :
    putEntry place f (putEntry place e l) = putEntry place f l := by
  induction l with
  | nil => simp [putEntry]
  | cons x rest ih =>
    rw [putEntry]
    split
    · rename_i hx
      rw [putEntry, if_pos hx, putEntry, if_pos hx]
    · rename_i hx
      rw [putEntry, if_neg hx, putEntry, if_neg hx, ih]

/-- Of two contents that are put at a place, the second one stays. -/
theorem put_put {e f : Entry} : (t.put place e).put place f = t.put place f := by
  simp only [put, putEntry_putEntry]

theorem at?_rewrite (h : t.at? place = some (.file old)) (q : Place) :
    (t.put place (.file new)).at? q = if q = place then some (.file new) else t.at? q := by
  rw [at?_put]
  by_cases hq : q = place
  · -- No file is at a place above the current directory.
    have hbelow : ¬ place.isPrefixOf t.current := fun habove => by
      rw [at?, if_pos habove] at h
      cases h
    rw [hq, if_neg hbelow]
  · rw [if_neg hq]
    split
    · rename_i habove
      rw [at?, if_pos habove]
    · rfl

/-- A path is followed as far as before. -/
theorem follow_rewrite (h : t.at? place = some (.file old)) :
    (t.put place (.file new)).follow here parts = t.follow here parts := by
  induction parts generalizing here with
  | nil => rfl
  | cons part rest ih =>
    rw [follow, follow, at?_rewrite h]
    by_cases hhere : here = place
    · rw [if_pos hhere, hhere, h]
    · rw [if_neg hhere]
      simp only [ih]

theorem locate_rewrite (h : t.at? place = some (.file old)) (p : Path) :
    (t.put place (.file new)).locate p = t.locate p := by
  rw [locate, locate, follow_rewrite h]
  rfl

/-- Only paths to the file find the new content. -/
theorem contentOf_rewrite (h : t.at? place = some (.file old)) (p : Path) :
    (t.put place (.file new)).contentOf p =
      if t.locate p = .ok place then .ok new else t.contentOf p := by
  rw [contentOf, contentOf, locate_rewrite h]
  cases t.locate p with
  | error reason => rfl
  | ok q =>
    simp only [bind, Except.bind, Except.ok.injEq, at?_rewrite h]
    by_cases hq : q = place
    · simp only [if_pos hq]
    · simp only [if_neg hq]

theorem textOf_rewrite (h : t.at? place = some (.file old)) (hp : t.locate p ≠ .ok place) :
    (t.put place (.file new)).textOf p = t.textOf p := by
  rw [textOf, contentOf_rewrite h, if_neg hp, ← textOf]

theorem isPresent_rewrite (h : t.at? place = some (.file old)) (p : Path) :
    (t.put place (.file new)).isPresent p = t.isPresent p := by
  rw [isPresent, isPresent, locate_rewrite h]
  cases t.locate p with
  | error reason => rfl
  | ok q =>
    simp only [at?_rewrite h]
    by_cases hq : q = place
    · rw [if_pos hq, hq, h]
      rfl
    · rw [if_neg hq]

/-! ## Texts that are written again -/

/-- A path leads to a file, which gets another content. -/
def Rewrites (t : FileTree) (p : Path) (new : ByteArray) (t' : FileTree) : Prop :=
  ∃ place old, t.locate p = .ok place ∧ t.at? place = some (.file old) ∧
    t' = t.put place (.file new)

theorem Rewrites.current_eq (h : t.Rewrites p new t') : t'.current = t.current := by
  obtain ⟨place, old, -, -, rfl⟩ := h
  rfl

theorem Rewrites.textOf (h : t.Rewrites p new t') {q : Path} (hq : t.locate q ≠ t.locate p) :
    t'.textOf q = t.textOf q := by
  obtain ⟨place, old, hlocate, hfile, rfl⟩ := h
  exact textOf_rewrite hfile (hlocate ▸ hq)

theorem Rewrites.isPresent (h : t.Rewrites p new t') (q : Path) :
    t'.isPresent q = t.isPresent q := by
  obtain ⟨place, old, -, hfile, rfl⟩ := h
  exact isPresent_rewrite hfile q

/-- Where a text was read, writing another one changes the file and nothing else. -/
theorem rewrites_of_writeText (htext : t.textOf p = .ok s')
    (h : (FileSystem.writeText p s : StateM FileTree _).run t = (.ok (), t')) :
    t.Rewrites p s.toUTF8 t' := by
  obtain ⟨place, hlocate, -, rfl⟩ := putContent_eq_ok.1 (writeText_eq_ok.1 h).2
  obtain ⟨-, old, hold, -⟩ := textOf_eq_ok.1 htext
  obtain ⟨_, hlocate', hfile⟩ := contentOf_eq_ok.1 hold
  cases hlocate.symm.trans hlocate'
  exact ⟨place, old, hlocate, hfile, rfl⟩

/-- A text without carriage returns is read as it was written. -/
theorem textOf_of_writeText (hs : '\r' ∉ s.toList)
    (h : (FileSystem.writeText p s : StateM FileTree _).run t = (.ok (), t')) :
    t'.textOf p = .ok s := by
  obtain ⟨hnul, hput⟩ := writeText_eq_ok.1 h
  exact textOf_eq_ok.2 ⟨hnul, _, contentOf_putContent hput, textOfBytes_toUTF8 hs⟩

/-- A text that is written to a file once more leaves the tree as it is. -/
theorem writeText_again (htext : t.textOf p = .ok s')
    (h : (FileSystem.writeText p s : StateM FileTree _).run t = (.ok (), t')) :
    (FileSystem.writeText p s : StateM FileTree _).run t' = (.ok (), t') := by
  obtain ⟨place, old, hlocate, hfile, rfl⟩ := rewrites_of_writeText htext h
  refine writeText_eq_ok.2 ⟨(writeText_eq_ok.1 h).1, putContent_eq_ok.2 ⟨place, ?_, ?_, ?_⟩⟩
  · rw [locate_rewrite hfile, hlocate]
  · rw [at?_rewrite hfile, if_pos rfl]
    simp
  · rw [put_put]

end Cnd.FileTree
