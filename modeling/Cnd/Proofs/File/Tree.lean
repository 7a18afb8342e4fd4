import Cnd.File.Tree
import Cnd.File.Reading
import Mathlib.Data.List.Induction

/-!
# Files in trees

Which paths a file can be written to in a tree (`FileTree.Writable`): the directories on the way
can be made there (`ensureDirectories_run`), and then the file is put at its end (`writeText_run`).
Whatever was written is what is read from the path afterwards (`readText_run`).
-/

namespace Cnd

/-! ## The parts of a path -/

namespace Path

variable {parts : List String} {part : String} {p : Path}

theorem utf8ByteSize_intercalate_concat (parts : List String) (part : String) :
    ("/".intercalate parts).utf8ByteSize ≤ ("/".intercalate (parts ++ [part])).utf8ByteSize := by
  cases parts with
  | nil => exact Nat.zero_le _
  | cons first more =>
    rw [String.intercalate_append_of_ne_nil (List.cons_ne_nil _ _) (List.cons_ne_nil _ _)]
    simp only [String.utf8ByteSize_append]
    omega

theorem utf8ByteSize_text (p : Path) :
    p.text.utf8ByteSize =
      max 1 (p.root.text.utf8ByteSize + ("/".intercalate p.parts).utf8ByteSize) := by
  rw [text, ← String.utf8ByteSize_append]
  split
  · rename_i h
    rw [String.isEmpty_iff.1 h]
    rfl
  · rename_i h
    have : (p.root.text ++ "/".intercalate p.parts).utf8ByteSize ≠ 0 := by
      rwa [Ne, String.utf8ByteSize_eq_zero_iff, ← String.isEmpty_iff]
    omega

/-- A path is short enough for a file system, and so is each of its parts. -/
structure Fits (p : Path) : Prop where
  noNul : p.hasNul = false
  path : p.text.utf8ByteSize ≤ FileTree.maxPath
  parts : ∀ part ∈ p.parts, part.utf8ByteSize ≤ FileTree.maxPart

theorem Fits.init {root : Root} (h : Fits ⟨root, parts ++ [part]⟩) : Fits ⟨root, parts⟩ where
  noNul := by
    have := h.noNul
    rw [hasNul, List.any_append, Bool.or_eq_false_iff] at this
    exact this.1
  path := by
    have := h.path
    have := utf8ByteSize_intercalate_concat parts part
    rw [utf8ByteSize_text] at *
    simp only at *
    omega
  parts q hq := h.parts q (List.mem_append_left _ hq)

end Path

namespace FileTree

variable {t t' : FileTree} {here place dest : Place} {part : String} {parts : List String}
variable {p : Path} {root : Path.Root}

/-! ## The way along a path -/

/-- The place that a part leads to from a place. -/
def next (here : Place) (part : String) : Place :=
  if part = ".." then here.dropLast else here ++ [part]

/-- Where paths with the root begin. -/
def start (t : FileTree) (root : Path.Root) : Place :=
  if (⟨root, []⟩ : Path).isAbsolute then [] else t.current

/-- The place that a path leads to when directories are on the whole way. -/
def placeOf (t : FileTree) (p : Path) : Place := p.parts.foldl next (t.start p.root)

/-- The places that the parts lead through from a place, the first and the last one too. -/
def trail (here : Place) : List String → List Place
  | [] => [here]
  | part :: rest => here :: trail (next here part) rest

/-- The places on the way along a path. -/
def way (t : FileTree) (p : Path) : List Place := trail (t.start p.root) p.parts

theorem trail_concat :
    trail here (parts ++ [part]) = trail here parts ++ [(parts ++ [part]).foldl next here] := by
  induction parts generalizing here with
  | nil => rfl
  | cons first more ih =>
    rw [List.cons_append, trail, ih]
    rfl

theorem way_concat :
    t.way ⟨root, parts ++ [part]⟩ = t.way ⟨root, parts⟩ ++ [t.placeOf ⟨root, parts ++ [part]⟩] :=
  trail_concat

/-- No file is on the way along a path. -/
def Clear (t : FileTree) (p : Path) : Prop := ∀ place ∈ t.way p, ∀ c, t.at? place ≠ some (.file c)

/-- Nothing but directories is on the way along a path. -/
def Paved (t : FileTree) (p : Path) : Prop := ∀ place ∈ t.way p, t.at? place = some .directory

theorem at?_start (t : FileTree) (root : Path.Root) : t.at? (t.start root) = some .directory := by
  rw [at?, if_pos]
  rw [start]
  split
  · rfl
  · simp

theorem follow_directory (h : t.at? here = some .directory) (hpart : part.utf8ByteSize ≤ maxPart) :
    t.follow here (part :: parts) = t.follow (next here part) parts := by
  rw [follow, h, next]
  by_cases hdots : part = ".."
  · simp only [if_pos hdots]
  · simp only [if_neg hdots, if_neg (Nat.not_lt.2 hpart)]

theorem follow_paved (hparts : ∀ q ∈ parts ++ [part], q.utf8ByteSize ≤ maxPart)
    (h : ∀ place ∈ trail here parts, t.at? place = some .directory) :
    t.follow here (parts ++ [part]) = .ok ((parts ++ [part]).foldl next here) := by
  induction parts generalizing here with
  | nil => exact follow_directory (h here List.mem_cons_self) (hparts part List.mem_cons_self)
  | cons first more ih =>
    obtain ⟨hhere, hrest⟩ := List.forall_mem_cons.1 h
    obtain ⟨hfirst, hmore⟩ := List.forall_mem_cons.1 hparts
    rw [List.cons_append, follow_directory hhere hfirst]
    exact ih hmore hrest

/-- When no file is on the way, a directory is missing or there are only directories. -/
theorem follow_clear (hparts : ∀ q ∈ parts ++ [part], q.utf8ByteSize ≤ maxPart)
    (h : ∀ place ∈ trail here parts, ∀ c, t.at? place ≠ some (.file c)) :
    t.follow here (parts ++ [part]) = .error .notFound ∨
      ∀ place ∈ trail here parts, t.at? place = some .directory := by
  induction parts generalizing here with
  | nil =>
    cases hhere : t.at? here with
    | none =>
      left
      rw [List.nil_append, follow, hhere]
    | some e =>
      cases e with
      | file c => exact absurd hhere (h here List.mem_cons_self c)
      | directory =>
        right
        exact List.forall_mem_singleton.2 hhere
  | cons first more ih =>
    obtain ⟨hclear, hrest⟩ := List.forall_mem_cons.1 h
    obtain ⟨hfirst, hmore⟩ := List.forall_mem_cons.1 hparts
    cases hhere : t.at? here with
    | none =>
      left
      rw [List.cons_append, follow, hhere]
    | some e =>
      cases e with
      | file c => exact absurd hhere (hclear c)
      | directory =>
        rw [List.cons_append, follow_directory hhere hfirst]
        refine (ih hmore hrest).imp_right fun hdirs => ?_
        exact List.forall_mem_cons.2 ⟨hhere, hdirs⟩

theorem locate_paved (hfits : Path.Fits ⟨root, parts ++ [part]⟩) (h : t.Paved ⟨root, parts⟩) :
    t.locate ⟨root, parts ++ [part]⟩ = .ok (t.placeOf ⟨root, parts ++ [part]⟩) := by
  rw [locate, if_neg (Nat.not_lt.2 hfits.path)]
  exact follow_paved hfits.parts h

theorem locate_clear (hfits : Path.Fits ⟨root, parts ++ [part]⟩) (h : t.Clear ⟨root, parts⟩) :
    t.locate ⟨root, parts ++ [part]⟩ = .error .notFound ∨ t.Paved ⟨root, parts⟩ := by
  rw [locate, if_neg (Nat.not_lt.2 hfits.path)]
  exact follow_clear hfits.parts h

theorem locate_nil (hfits : Path.Fits ⟨root, []⟩) : t.locate ⟨root, []⟩ = .ok (t.start root) := by
  rw [locate, if_neg (Nat.not_lt.2 hfits.path), follow]
  rfl

/-! ## Directories -/

section Run

variable {α β : Type}

theorem bind_run {x : StateM FileTree α} {f : α → StateM FileTree β} {a : α}
    (h : x.run t = (a, t')) : (x >>= f).run t = (f a).run t' := by
  rw [StateT.run_bind, h]
  rfl

theorem attempt_ok {operation : Path → StateM FileTree (Except Refusal.Reason α)} {a : α}
    (hnul : p.hasNul = false) (h : (operation p).run t = (.ok a, t')) :
    (FileSystem.attempt p operation).run t = (.ok a, t') := by
  rw [FileSystem.attempt, if_neg (by simp [hnul]), bind_run h]
  rfl

theorem attempt_error {operation : Path → StateM FileTree (Except Refusal.Reason α)}
    {reason : Refusal.Reason} (hnul : p.hasNul = false)
    (h : (operation p).run t = (.error reason, t')) :
    (FileSystem.attempt p operation).run t = (.error (.refused ⟨reason, p⟩), t') := by
  rw [FileSystem.attempt, if_neg (by simp [hnul]), bind_run h]
  rfl

theorem change_ok {f : FileTree → Except Refusal.Reason FileTree} (h : f t = .ok t') :
    (change f).run t = (.ok (), t') := by
  rw [change, StateT.run_bind, StateT.run_get, pure_bind, h]
  rfl

theorem change_error {f : FileTree → Except Refusal.Reason FileTree} {e : Refusal.Reason}
    (h : f t = .error e) : (change f).run t = (.error e, t) := by
  rw [change, StateT.run_bind, StateT.run_get, pure_bind, h]
  rfl

end Run

/-- The tree with a directory at a place where nothing is. -/
def withDirectory (t : FileTree) (place : Place) : FileTree :=
  if (t.at? place).isNone then t.put place .directory else t

theorem makeDirectory_ok (h : t.locate p = .ok place) (hplace : t.at? place = none) :
    t.makeDirectory p = .ok (t.put place .directory) := by
  simp only [makeDirectory, h, hplace, bind, Except.bind]

theorem makeDirectory_error {e : Entry} (h : t.locate p = .ok place)
    (hplace : t.at? place = some e) : t.makeDirectory p = .error .alreadyExists := by
  simp only [makeDirectory, h, hplace, bind, Except.bind]

theorem ensureDirectory_ok (hnul : p.hasNul = false) (h : t.locate p = .ok place)
    (hfile : ∀ c, t.at? place ≠ some (.file c)) :
    (FileSystem.ensureDirectory p : StateM FileTree _).run t =
      (.ok (), t.withDirectory place) := by
  rw [FileSystem.ensureDirectory, withDirectory]
  cases hplace : t.at? place with
  | none =>
    rw [bind_run (attempt_ok hnul (change_ok (makeDirectory_ok h hplace)))]
    rfl
  | some e =>
    cases e with
    | file c => exact absurd hplace (hfile c)
    | directory =>
      have hdirectory : (FileSystem.isDirectory p : StateM FileTree _).run t = (true, t) := by
        have hfind : t.find? p = some .directory := by
          simp only [find?, h, hplace]
        exact congrArg (fun found => (found.any (·.isDirectory), t)) hfind
      rw [bind_run (attempt_error hnul (change_error (makeDirectory_error h hplace)))]
      dsimp only
      rw [bind_run hdirectory]
      rfl

theorem ensureDirectory_notFound (hnul : p.hasNul = false) (h : t.locate p = .error .notFound) :
    (FileSystem.ensureDirectory p : StateM FileTree _).run t =
      (.error (.refused ⟨.notFound, p⟩), t) := by
  have hmake : t.makeDirectory p = .error .notFound := by
    simp only [makeDirectory, h, bind, Except.bind]
  rw [FileSystem.ensureDirectory, bind_run (attempt_error hnul (change_error hmake))]
  rfl

theorem at?_withDirectory :
    (t.withDirectory place).at? dest =
      if dest = place ∧ t.at? place = none then some .directory else t.at? dest := by
  rw [withDirectory]
  cases h : t.at? place with
  | some e => simp
  | none =>
    simp only [Option.isNone_none, if_true, and_true, at?_put]
    -- A place at which nothing is lies in no directory above the current one.
    by_cases habove : dest.isPrefixOf t.current
    · simp [at?, habove]
    · simp [habove]

/-- How a tree looks when the directories on the way along a path have been made. -/
structure Opened (t : FileTree) (p : Path) (t' : FileTree) : Prop where
  current : t'.current = t.current
  paved : ∀ place ∈ t.way p, t'.at? place = some .directory
  elsewhere : ∀ place ∉ t.way p, t'.at? place = t.at? place

theorem Opened.start (h : Opened t p t') : t'.start = t.start := by
  funext root
  rw [FileTree.start, FileTree.start, h.current]

theorem Opened.way (h : Opened t p t') (q : Path) : t'.way q = t.way q := by
  rw [FileTree.way, FileTree.way, h.start]

theorem Opened.placeOf (h : Opened t p t') (q : Path) : t'.placeOf q = t.placeOf q := by
  rw [FileTree.placeOf, FileTree.placeOf, h.start]

/-- Behind directories that have been made, a path leads where its parts say. -/
theorem Opened.locate (h : Opened t ⟨root, parts⟩ t')
    (hfits : Path.Fits ⟨root, parts ++ [part]⟩) :
    t'.locate ⟨root, parts ++ [part]⟩ = .ok (t.placeOf ⟨root, parts ++ [part]⟩) := by
  have hpaved : t'.Paved ⟨root, parts⟩ := by
    rw [Paved, h.way]
    exact h.paved
  rw [locate_paved hfits hpaved, h.placeOf]

theorem Paved.opened (h : t.Paved p) : Opened t p t := ⟨rfl, h, fun _ _ => rfl⟩

theorem current_withDirectory : (t.withDirectory place).current = t.current := by
  rw [withDirectory]
  split <;> rfl

/-- Behind directories that have been made, one more can be made where no file is. -/
theorem Opened.concat {t₁ : FileTree} (h : Opened t ⟨root, parts⟩ t₁)
    (hfits : Path.Fits ⟨root, parts ++ [part]⟩)
    (hfile : ∀ c, t.at? (t.placeOf ⟨root, parts ++ [part]⟩) ≠ some (.file c)) :
    ∃ t', (FileSystem.ensureDirectory ⟨root, parts ++ [part]⟩ : StateM FileTree _).run t₁ =
        (.ok (), t') ∧ Opened t ⟨root, parts ++ [part]⟩ t' := by
  have hfile' : ∀ c, t₁.at? (t.placeOf ⟨root, parts ++ [part]⟩) ≠ some (.file c) := by
    intro c
    by_cases hway : t.placeOf ⟨root, parts ++ [part]⟩ ∈ t.way ⟨root, parts⟩
    · rw [h.paved _ hway]
      simp
    · rw [h.elsewhere _ hway]
      exact hfile c
  refine ⟨_, ensureDirectory_ok hfits.noNul (h.locate hfits) hfile', ?_, ?_, ?_⟩
  · rw [current_withDirectory, h.current]
  · intro place hplace
    rw [at?_withDirectory]
    split
    · rfl
    · rename_i hnew
      rw [way_concat, List.mem_append, List.mem_singleton] at hplace
      obtain hplace | rfl := hplace
      · exact h.paved place hplace
      · cases hat : t₁.at? (t.placeOf ⟨root, parts ++ [part]⟩) with
        | none => exact absurd ⟨rfl, hat⟩ hnew
        | some e =>
          cases e with
          | file c => exact absurd hat (hfile' c)
          | directory => rfl
  · intro place hplace
    rw [way_concat, List.mem_append, List.mem_singleton, not_or] at hplace
    rw [at?_withDirectory, if_neg fun hnew => hplace.2 hnew.1]
    exact h.elsewhere place hplace.1

/-- The directories on a way that no file is on can be made. -/
theorem ensureDirectories_run {p : Path} (hfits : p.Fits) (hclear : t.Clear p) :
    ∃ t', (FileSystem.ensureDirectories p : StateM FileTree _).run t = (.ok (), t') ∧
      Opened t p t' := by
  obtain ⟨root, parts⟩ := p
  induction parts using List.reverseRecOn with
  | nil =>
    have hat : t.at? (t.start root) = some .directory := at?_start t root
    have hdone : t.withDirectory (t.start root) = t := by
      rw [withDirectory, hat]
      rfl
    have hfile : ∀ c, t.at? (t.start root) ≠ some (.file c) := by simp [hat]
    have hrun := ensureDirectory_ok hfits.noNul (locate_nil hfits) hfile
    rw [hdone] at hrun
    refine ⟨t, ?_, Paved.opened (List.forall_mem_singleton.2 hat)⟩
    rw [FileSystem.ensureDirectories, bind_run hrun]
    rfl
  | append_singleton parts part ih =>
    rw [Clear, way_concat, List.forall_mem_append, List.forall_mem_singleton] at hclear
    obtain ⟨hclear, hfile⟩ := hclear
    obtain hmissing | hpaved := locate_clear hfits hclear
    · obtain ⟨t₁, habove, hopened⟩ := ih hfits.init hclear
      obtain ⟨t', hlast, hopened'⟩ := hopened.concat hfits hfile
      refine ⟨t', ?_, hopened'⟩
      rw [FileSystem.ensureDirectories,
        bind_run (ensureDirectory_notFound hfits.noNul hmissing)]
      simp only [List.append_eq_nil_iff, List.cons_ne_nil, and_false, dite_false]
      rw [Path.parent, List.dropLast_concat, bind_run habove]
      exact hlast
    · obtain ⟨t', hlast, hopened'⟩ := hpaved.opened.concat hfits hfile
      refine ⟨t', ?_, hopened'⟩
      rw [FileSystem.ensureDirectories, bind_run hlast]
      rfl

/-! ## Contents -/

section Content

variable {content : ByteArray} {e : Entry} {s : String}

/-- A file that is put where no directory is closes no way through directories. -/
theorem follow_put (hplace : t.at? place ≠ some .directory) (h : t.follow here parts = .ok dest) :
    (t.put place e).follow here parts = .ok dest := by
  induction parts generalizing here with
  | nil => exact h
  | cons part rest ih =>
    rw [follow] at h ⊢
    cases hhere : t.at? here with
    | none =>
      rw [hhere] at h
      cases h
    | some entry =>
      rw [hhere] at h
      cases entry with
      | file c => cases h
      | directory =>
        have hstays : (t.put place e).at? here = some .directory := by
          rw [at?_put]
          split
          · rfl
          · rw [if_neg, hhere]
            rintro rfl
            exact hplace hhere
        rw [hstays]
        simp only at h ⊢
        split at h
        · rename_i hdots
          rw [if_pos hdots]
          exact ih h
        · rename_i hdots
          split at h
          · cases h
          · rename_i hshort
            rw [if_neg hdots, if_neg hshort]
            exact ih h

theorem locate_put (hplace : t.at? place ≠ some .directory) (h : t.locate p = .ok dest) :
    (t.put place e).locate p = .ok dest := by
  rw [locate] at h ⊢
  split at h
  · cases h
  · rename_i hshort
    rw [if_neg hshort]
    exact follow_put hplace h

/-- Content is put where a path leads, if that is no directory. -/
theorem putContent_eq_ok :
    t.putContent p content = .ok t' ↔
      ∃ place, t.locate p = .ok place ∧ t.at? place ≠ some .directory ∧
        t' = t.put place (.file content) := by
  rw [putContent]
  cases hlocate : t.locate p with
  | error e => simp [bind, Except.bind]
  | ok place =>
    simp only [bind, Except.bind, Except.ok.injEq, exists_eq_left']
    split
    · rename_i hdirectory
      simp [hdirectory]
    · rename_i hplace
      rw [Except.ok.injEq, and_iff_right hplace, eq_comm]

/-- What was put at the end of a path is the content of the file. -/
theorem contentOf_putContent (h : t.putContent p content = .ok t') :
    t'.contentOf p = .ok content := by
  obtain ⟨place, hlocate, hplace, rfl⟩ := putContent_eq_ok.1 h
  have hat : (t.put place (.file content)).at? place = some (.file content) := by
    rw [at?_put, if_neg, if_pos rfl]
    intro habove
    exact hplace (by rw [at?, if_pos habove])
  rw [contentOf, locate_put hplace hlocate]
  simp only [bind, Except.bind, hat]

theorem readText_run (hnul : p.hasNul = false) (h : t.contentOf p = .ok content)
    (htext : textOfBytes content = .ok s) :
    (FileSystem.readText p : StateM FileTree _).run t = (.ok s, t) := by
  have hread : (FileSystem.contentOf p : StateM FileTree _).run t = (.ok content, t) :=
    congrArg (·, t) h
  rw [FileSystem.readText, FileSystem.readBytes, bind_run (attempt_ok hnul hread)]
  simp only [htext]
  rfl

theorem writeText_eq_ok :
    (FileSystem.writeText p s : StateM FileTree _).run t = (.ok (), t') ↔
      p.hasNul = false ∧ t.putContent p s.toUTF8 = .ok t' := by
  rw [FileSystem.writeText]
  cases hnul : p.hasNul with
  | true =>
    rw [FileSystem.attempt, if_pos hnul]
    exact ⟨nofun, nofun⟩
  | false =>
    cases hput : t.putContent p s.toUTF8 with
    | error e =>
      have hrun : (FileSystem.putContent p s.toUTF8 : StateM FileTree _).run t = (.error e, t) :=
        change_error hput
      rw [attempt_error hnul hrun]
      exact ⟨nofun, nofun⟩
    | ok t₁ =>
      have hrun : (FileSystem.putContent p s.toUTF8 : StateM FileTree _).run t = (.ok (), t₁) :=
        change_ok hput
      rw [attempt_ok hnul hrun]
      constructor
      · rintro ⟨⟩
        exact ⟨rfl, rfl⟩
      · rintro ⟨-, ⟨⟩⟩
        rfl

/-- A text without carriage returns that was written to a path is read from it. -/
theorem readText_of_writeText (hs : '\r' ∉ s.toList)
    (h : (FileSystem.writeText p s : StateM FileTree _).run t = (.ok (), t')) :
    (FileSystem.readText p : StateM FileTree _).run t' = (.ok s, t') := by
  obtain ⟨hnul, hput⟩ := writeText_eq_ok.1 h
  exact readText_run hnul (contentOf_putContent hput) (textOfBytes_toUTF8 hs)

end Content

/-- A file can be written: its path is short enough, no file is in the place of a directory on
the way, and the path leads neither to a directory that is there nor to one that is on the way. -/
structure Writable (t : FileTree) (p : Path) : Prop where
  fits : p.Fits
  clear : t.Clear p.parent
  free : t.placeOf p ∉ t.way p.parent ∧ t.at? (t.placeOf p) ≠ some .directory

theorem Writable.exists_concat (h : t.Writable p) :
    ∃ parts part, p = ⟨p.root, parts ++ [part]⟩ := by
  obtain ⟨root, parts⟩ := p
  induction parts using List.reverseRecOn with
  | nil => exact absurd List.mem_cons_self h.free.1
  | append_singleton parts part _ => exact ⟨parts, part, rfl⟩

/-- A text is written wherever a file can be, once the directories above it have been made. -/
theorem Writable.run (h : t.Writable p) (s : String) :
    ∃ t₁ t', (FileSystem.ensureDirectories p.parent : StateM FileTree _).run t = (.ok (), t₁) ∧
      (FileSystem.writeText p s : StateM FileTree _).run t₁ = (.ok (), t') := by
  obtain ⟨parts, part, hp⟩ := h.exists_concat
  have hparent : p.parent = ⟨p.root, parts⟩ := by
    rw [hp, Path.parent, List.dropLast_concat]
  obtain ⟨hfits, hclear, hfree, hplace⟩ := h
  rw [hparent] at hclear hfree ⊢
  have hfits' := hfits
  rw [hp] at hfits'
  obtain ⟨t₁, hmade, hopened⟩ := ensureDirectories_run hfits'.init hclear
  have hlocate := hopened.locate hfits'
  rw [← hp] at hlocate
  rw [← hopened.elsewhere _ hfree] at hplace
  exact ⟨t₁, _, hmade, writeText_eq_ok.2
    ⟨hfits.noNul, putContent_eq_ok.2 ⟨_, hlocate, hplace, rfl⟩⟩⟩

end FileTree

end Cnd
