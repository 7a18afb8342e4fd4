import Cnd.Artifact.File
import Cnd.Proofs.Artifact.Schema
import Cnd.Proofs.File.Tree

/-!
# Schemas come back from files

The text of an artifact has no carriage returns, so it is read from a file as it was written to
it, and a schema comes back from the file of its artifact (`artifact_round_trip`).
-/

namespace Cnd.Artifact

variable {s : Schema} {t t' : FileTree} {p : Path}

theorem not_mem_fileText (s : Schema) : '\r' ∉ (fileText s).toList :=
  Json.not_mem_render (plain_encode s) (some 2)

theorem write_eq_ok :
    (write s p : StateM FileTree _).run t = (.ok (), t') ↔
      ∃ t₁, (FileSystem.ensureDirectories p.parent : StateM FileTree _).run t = (.ok (), t₁) ∧
        (FileSystem.writeText p (fileText s) : StateM FileTree _).run t₁ = (.ok (), t') := by
  rw [write]
  obtain ⟨made, t₁, hmade⟩ : ∃ made t₁,
      (FileSystem.ensureDirectories p.parent : StateM FileTree _).run t = (made, t₁) :=
    ⟨_, _, rfl⟩
  rw [FileTree.bind_run hmade, hmade]
  cases made with
  | error e =>
    refine ⟨nofun, ?_⟩
    rintro ⟨_, ⟨⟩, -⟩
  | ok u =>
    constructor
    · intro hwrite
      exact ⟨t₁, rfl, hwrite⟩
    · rintro ⟨_, ⟨⟩, hwrite⟩
      exact hwrite

theorem load_of_write (h : (write s p : StateM FileTree _).run t = (.ok (), t')) :
    (load p : StateM FileTree _).run t' = (.ok s, t') := by
  obtain ⟨t₁, -, hwrite⟩ := write_eq_ok.1 h
  have hread := FileTree.readText_of_writeText (not_mem_fileText s) hwrite
  have hschema : deserialize (fileText s) = .ok s := deserialize_serialize (some 2) s
  rw [load, FileTree.bind_run hread]
  simp only [hschema]
  rfl

theorem exists_write (h : t.Writable p) (s : Schema) :
    ∃ t', (write s p : StateM FileTree _).run t = (.ok (), t') := by
  obtain ⟨t₁, t', hmade, hwrite⟩ := h.run (fileText s)
  exact ⟨t', write_eq_ok.2 ⟨t₁, hmade, hwrite⟩⟩

/-- A schema comes back from the text of its artifact with every indent. It can be written
wherever a file can, and wherever it has been written, it comes back from the file. -/
theorem artifact_round_trip (s : Schema) :
    (∀ indent, deserialize (serialize indent s) = .ok s) ∧
      (∀ t p, t.Writable p →
        ∃ t', (write s p : StateM FileTree _).run t = (.ok (), t') ∧
          (load p : StateM FileTree _).run t' = (.ok s, t')) ∧
      ∀ t p t', (write s p : StateM FileTree _).run t = (.ok (), t') →
        (load p : StateM FileTree _).run t' = (.ok s, t') := by
  refine ⟨fun indent => deserialize_serialize indent s, ?_, fun _ _ _ => load_of_write⟩
  intro t p hwritable
  obtain ⟨t', hwrite⟩ := exists_write hwritable s
  exact ⟨t', hwrite, load_of_write hwrite⟩

/-- With names that need every kind of escape, in a file below a directory that is not there yet. -/
theorem artifact_round_trip_escapes :
    let t : FileTree := ⟨["home"], [(["home", "note"], .file "old".toUTF8)]⟩
    let p : Path := ⟨.here, ["out", "types.json"]⟩
    let s : Schema := ⟨.ofList [("z", "\x22\\"), ("", "\r\n\x00")],
      [⟨"😀\x7f", ["a", "a"], false, false, false, true, some "", [], []⟩,
        ⟨"é", [], true, true, true, false, none, [], []⟩]⟩
    t.Writable p ∧ ∃ t', (write s p : StateM FileTree _).run t = (.ok (), t') ∧
      (load p : StateM FileTree _).run t' = (.ok s, t') := by
  intro t p s
  have hwritable : t.Writable p := by
    refine ⟨⟨by decide, by decide, by decide⟩, ?_, by decide, ?_⟩
    · have hway : t.way p.parent = [["home"], ["home", "out"]] := by decide
      have hhome : t.at? ["home"] = some .directory := rfl
      have hout : t.at? ["home", "out"] = none := rfl
      rw [FileTree.Clear, hway, List.forall_mem_cons, List.forall_mem_singleton, hhome, hout]
      simp
    · have hfile : t.at? (t.placeOf p) = none := rfl
      simp [hfile]
  exact ⟨hwritable, (artifact_round_trip s).2.1 t p hwritable⟩

end Cnd.Artifact
