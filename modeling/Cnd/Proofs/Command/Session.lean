import Cnd.Command.Run
import Cnd.Proofs.File.Rewrite

/-!
# Sessions on a tree of files

A session that runs on a tree of files is followed step by step: each step hands what was printed
so far and the tree on to the next one, unless it is broken off. What is printed decides nothing,
and only writing changes the tree.
-/

namespace Cnd.Command

namespace Session

variable {α β : Type} {x : Session (StateM FileTree) α} {f : α → Session (StateM FileTree) β}
variable {a : α} {b : β} {p p' p₁ : Printed} {t t' t₁ : FileTree}

/-- What a session comes to on a tree, behind what was printed before, and what it leaves. -/
def runOn (x : Session (StateM FileTree) α) (p : Printed) (t : FileTree) :
    (Except Crash α × Printed) × FileTree :=
  (x.run.run p).run t

@[simp] theorem runOn_pure : (pure a : Session (StateM FileTree) α).runOn p t = ((.ok a, p), t) :=
  rfl

/-- A session that is broken off keeps what was printed and the files. -/
@[simp] theorem runOn_throw {e : Crash} :
    (throw e : Session (StateM FileTree) α).runOn p t = ((.error e, p), t) := rfl

/-- An operation on files prints nothing. -/
theorem runOn_lift {y : StateM FileTree α} (h : y.run t = (a, t')) :
    (liftM y : Session (StateM FileTree) α).runOn p t = ((.ok a, p), t') :=
  congrArg (fun r : α × FileTree => ((Except.ok r.1, p), r.2)) h

theorem runOn_bind (h : x.runOn p t = ((.ok a, p₁), t₁)) :
    (x >>= f).runOn p t = (f a).runOn p₁ t₁ := by
  rw [runOn] at h ⊢
  rw [ExceptT.run_bind, StateT.run_bind, StateT.run_bind, h]
  rfl

/-- A session that comes to an end has come to the end of each of its steps. -/
theorem of_runOn_bind (h : (x >>= f).runOn p t = ((.ok b, p'), t')) :
    ∃ a p₁ t₁, x.runOn p t = ((.ok a, p₁), t₁) ∧ (f a).runOn p₁ t₁ = ((.ok b, p'), t') := by
  obtain ⟨r, p₁, t₁, hx⟩ : ∃ r p₁ t₁, x.runOn p t = ((r, p₁), t₁) := ⟨_, _, _, rfl⟩
  cases r with
  | ok a =>
    rw [runOn_bind hx] at h
    exact ⟨a, p₁, t₁, hx, h⟩
  | error e =>
    rw [runOn] at h hx
    rw [ExceptT.run_bind, StateT.run_bind, StateT.run_bind, hx] at h
    cases h

theorem of_runOn_lift {y : StateM FileTree α}
    (h : (liftM y : Session (StateM FileTree) α).runOn p t = ((.ok a, p'), t')) :
    y.run t = (a, t') ∧ p' = p := by
  cases h
  exact ⟨rfl, rfl⟩

/-! ## Printing -/

@[simp] theorem runOn_print {s : String} :
    (print s : Session (StateM FileTree) Unit).runOn p t =
      ((.ok (), { p with out := p.out ++ s }), t) := rfl

@[simp] theorem runOn_complain {s : String} :
    (complain s : Session (StateM FileTree) Unit).runOn p t =
      ((.ok (), { p with err := p.err ++ s ++ "\n" }), t) := rfl

/-- The log goes to the standard error and breaks nothing off. -/
theorem runOn_note (verbose : Bool) (events : List Log.Event) (p : Printed) (t : FileTree) :
    ∃ p', (note verbose events : Session (StateM FileTree) Unit).runOn p t = ((.ok (), p'), t) := by
  rw [note]
  generalize events.filter (fun e => verbose || e.level = .warning) = events
  induction events generalizing p with
  | nil => exact ⟨p, rfl⟩
  | cons e rest ih =>
    obtain ⟨p', hrest⟩ := ih { p with err := p.err ++ e.line ++ "\n" }
    exact ⟨p', by rw [List.forM_eq_forM, List.forM_cons, runOn_bind runOn_complain]; exact hrest⟩

end Session

end Cnd.Command
