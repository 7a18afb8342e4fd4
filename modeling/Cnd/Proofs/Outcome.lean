import Mathlib.Logic.Basic

/-!
# Outcomes

A step that may fail comes to a value or to an error. Steps that follow one another come to a value
if and only if each of them does, and renaming the errors changes no value.
-/

namespace Cnd.Outcome

variable {α β ε ε' : Type} {o : Except ε α} {f : α → Except ε β} {l : List α}

theorem bind_eq_ok_iff {b : β} : o >>= f = .ok b ↔ ∃ a, o = .ok a ∧ f a = .ok b := by
  cases o with
  | error e => exact iff_of_false nofun nofun
  | ok a =>
    constructor
    · exact fun h => ⟨a, rfl, h⟩
    · rintro ⟨_, ⟨⟩, h⟩
      exact h

theorem mapError_eq_ok_iff {rename : ε → ε'} {a : α} : o.mapError rename = .ok a ↔ o = .ok a := by
  cases o with
  | error e => exact iff_of_false nofun nofun
  | ok b =>
    constructor
    · rintro ⟨⟩
      rfl
    · rintro ⟨⟩
      rfl

theorem mapM_cons_eq_ok_iff {x : α} {bs : List β} : (x :: l).mapM f = .ok bs ↔
    ∃ b bs', f x = .ok b ∧ l.mapM f = .ok bs' ∧ bs = b :: bs' := by
  simp only [List.mapM_cons, bind_eq_ok_iff]
  constructor
  · rintro ⟨b, hb, bs', hbs', ⟨⟩⟩
    exact ⟨b, bs', hb, hbs', rfl⟩
  · rintro ⟨b, bs', hb, hbs', rfl⟩
    exact ⟨b, hb, bs', hbs', rfl⟩

/-- A list is read item by item exactly if every item passes. -/
theorem mapM_eq_ok_iff {passes : α → Prop} [DecidablePred passes] {g : α → β} {e : α → ε}
    {out : List β} :
    (l.mapM fun a => if passes a then Except.ok (g a) else .error (e a)) = .ok out ↔
      (∀ a ∈ l, passes a) ∧ l.map g = out := by
  induction l generalizing out with
  | nil => simp [pure, Except.pure]
  | cons a l ih =>
    rw [mapM_cons_eq_ok_iff]
    simp only [ih]
    by_cases ha : passes a
    · simp only [if_pos ha, List.forall_mem_cons, List.map_cons]
      constructor
      · rintro ⟨_, _, ⟨⟩, ⟨hall, rfl⟩, rfl⟩
        exact ⟨⟨ha, hall⟩, rfl⟩
      · rintro ⟨⟨-, hall⟩, rfl⟩
        exact ⟨_, _, rfl, ⟨hall, rfl⟩, rfl⟩
    · simp [ha]

end Cnd.Outcome
