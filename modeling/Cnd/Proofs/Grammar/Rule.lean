import Cnd.Document.Rule

/-!
# Applying rules to tokens

A rule is a function from a context and the tokens that are left. These equations say what the
monad does to them, and what the front token decides.
-/

namespace Cnd.Document.Rule

variable {α β : Type} {context : Context} {p : Position} {ts rest : List Token}

theorem bind_ok {r : Rule α} {f : α → Rule β} {a : α} (h : r context ts = .ok (a, rest)) :
    (r >>= f) context ts = f a context rest := by
  show (r context ts >>= fun x => f x.1 context x.2) = _
  rw [h]
  rfl

theorem bind_error {r : Rule α} {f : α → Rule β} {e : Failure} (h : r context ts = .error e) :
    (r >>= f) context ts = .error e := by
  show (r context ts >>= fun x => f x.1 context x.2) = _
  rw [h]
  rfl

theorem of_bind_ok {r : Rule α} {f : α → Rule β} {b : β}
    (h : (r >>= f) context ts = .ok (b, rest)) :
    ∃ a mid, r context ts = .ok (a, mid) ∧ f a context mid = .ok (b, rest) := by
  cases hr : r context ts with
  | error e => rw [bind_error hr] at h; cases h
  | ok x => rw [bind_ok hr] at h; exact ⟨x.1, x.2, rfl, h⟩

theorem of_pure_ok {a b : α} (h : (pure a : Rule α) context ts = .ok (b, rest)) :
    a = b ∧ rest = ts := by
  cases h
  exact ⟨rfl, rfl⟩

theorem peek_of_getElem? {n : Nat} {t : Token} (h : ts[n]? = some t) :
    peek n context ts = .ok (t, ts) := by
  rw [peek, h]

theorem peek_ok (hend : context.ending = .ok p) (n : Nat) (ts : List Token) :
    peek n context ts = .ok (ts[n]?.getD (.atEnd p), ts) := by
  unfold peek
  cases ht : ts[n]? with
  | none => simp [hend]
  | some t => simp

/-- The token that stands for the end is of no other kind. -/
theorem kind_getD_atEnd {o : Option Token} {kind : Token.Kind} (hkind : kind ≠ .eof) :
    (o.getD (.atEnd p)).kind = kind ↔ ∃ t ∈ o, t.kind = kind := by
  cases o with
  | none => simp [Token.atEnd, hkind.symm]
  | some t => simp

theorem of_peek_ok {n : Nat} {t : Token} (h : peek n context ts = .ok (t, rest)) :
    ts = rest ∧ (ts[n]? = some t ∨ ts[n]? = none ∧ ∃ p, context.ending = .ok p ∧ t = .atEnd p) := by
  unfold peek at h
  cases hget : ts[n]? with
  | some u =>
    rw [hget] at h
    cases h
    exact ⟨rfl, .inl rfl⟩
  | none =>
    rw [hget] at h
    -- There is a token behind the last one only where the text was scanned to its end.
    cases hend : context.ending with
    | error e =>
      rw [hend] at h
      cases h
    | ok q =>
      rw [hend] at h
      cases h
      exact ⟨rfl, .inr ⟨rfl, q, rfl, rfl⟩⟩

/-- A token that does not stand for the end is there. -/
theorem getElem?_of_peek_ok {n : Nat} {t : Token} (h : peek n context ts = .ok (t, rest))
    (ht : t.kind ≠ .eof) : ts[n]? = some t := by
  obtain ⟨-, hget | ⟨-, q, -, rfl⟩⟩ := of_peek_ok h
  · exact hget
  · exact absurd rfl ht

theorem accept?_take {f : Token → Option β} {t : Token} {b : β} (ht : t.kind ≠ .eof)
    (hf : f t = some b) : accept? f context (t :: ts) = .ok (some b, ts) := by
  have hpeek : peek 0 context (t :: ts) = .ok (t, t :: ts) := rfl
  rw [accept?, bind_ok hpeek, if_neg ht, hf]
  rfl

theorem accept?_leave {f : Token → Option β} (hend : context.ending = .ok p)
    (h : ∀ t ∈ ts.head?, f t = none) : accept? f context ts = .ok (none, ts) := by
  rw [accept?, bind_ok (peek_ok hend 0 ts)]
  cases ts with
  | nil => rfl
  | cons t ts =>
    simp only [List.getElem?_cons_zero, Option.getD_some, h t rfl]
    split <;> rfl

theorem of_accept?_ok {f : Token → Option β} {b : Option β}
    (h : accept? f context ts = .ok (b, rest)) :
    (b = none ∧ rest = ts) ∨ ∃ t c, b = some c ∧ ts = t :: rest ∧ f t = some c ∧ t.kind ≠ .eof := by
  obtain ⟨t, mid, hpeek, hrest⟩ := of_bind_ok h
  obtain ⟨rfl, ht⟩ := of_peek_ok hpeek
  by_cases heof : t.kind = .eof
  · rw [if_pos heof] at hrest
    cases hrest
    exact .inl ⟨rfl, rfl⟩
  rw [if_neg heof] at hrest
  cases hf : f t with
  | none =>
    rw [hf] at hrest
    cases hrest
    exact .inl ⟨rfl, rfl⟩
  | some c =>
    rw [hf] at hrest
    cases hrest
    rcases ht with ht | ⟨-, q, -, rfl⟩
    · rw [← List.head?_eq_getElem?] at ht
      obtain ⟨rest, rfl⟩ := List.head?_eq_some_iff.1 ht
      exact .inr ⟨t, c, rfl, rfl, hf, heof⟩
    · exact absurd rfl heof

theorem accept_take {kind : Token.Kind} {t : Token} (ht : t.kind = kind) (hkind : kind ≠ .eof) :
    accept kind context (t :: ts) = .ok (true, ts) := by
  have h : accept? (fun t => if t.kind = kind then some () else none) context (t :: ts) =
      .ok (some (), ts) := accept?_take (by rw [ht]; exact hkind) (if_pos ht)
  rw [accept, bind_ok h]
  rfl

theorem accept_leave {kind : Token.Kind} (hend : context.ending = .ok p)
    (h : ∀ t ∈ ts.head?, t.kind ≠ kind) : accept kind context ts = .ok (false, ts) := by
  have h : accept? (fun t => if t.kind = kind then some () else none) context ts =
      .ok (none, ts) := accept?_leave hend fun t ht => if_neg (h t ht)
  rw [accept, bind_ok h]
  rfl

theorem of_accept_ok {kind : Token.Kind} {b : Bool} (h : accept kind context ts = .ok (b, rest)) :
    (b = false ∧ rest = ts) ∨ ∃ t, b = true ∧ ts = t :: rest ∧ t.kind = kind := by
  obtain ⟨o, mid, ho, hb⟩ := of_bind_ok h
  obtain ⟨rfl, rfl⟩ := of_pure_ok hb
  rcases of_accept?_ok ho with ⟨rfl, rfl⟩ | ⟨t, c, rfl, rfl, hc, -⟩
  · exact .inl ⟨rfl, rfl⟩
  · refine .inr ⟨t, rfl, rfl, ?_⟩
    split at hc
    · assumption
    · cases hc

theorem of_map_ok {r : Rule α} {g : α → β} {b : β} (h : (g <$> r) context ts = .ok (b, rest)) :
    ∃ a, r context ts = .ok (a, rest) ∧ g a = b := by
  rw [← bind_pure_comp] at h
  obtain ⟨a, mid, ha, hb⟩ := of_bind_ok h
  obtain ⟨rfl, rfl⟩ := of_pure_ok hb
  exact ⟨a, ha, rfl⟩

theorem many_none {r : Rule (Option α)} (h : r context ts = .ok (none, rest)) :
    many r context ts = .ok ([], rest) := by
  rw [many, h]

theorem many_error {r : Rule (Option α)} {e : Failure} (h : r context ts = .error e) :
    many r context ts = .error e := by
  rw [many, h]

theorem many_some {r : Rule (Option α)} {a : α} (h : r context ts = .ok (some a, rest))
    (hlength : rest.length < ts.length) :
    many r context ts = (List.cons a <$> many r) context rest := by
  rw [many, h]
  simp only [dif_pos hlength]
  rw [← bind_pure_comp]
  cases hmore : many r context rest with
  | error e => rw [bind_error hmore]
  | ok x => rw [bind_ok hmore]; rfl

/-- A rule that takes a token whenever it yields something is applied and then repeated. -/
theorem many_eq {r : Rule (Option α)}
    (h : ∀ {a rest}, r context ts = .ok (some a, rest) → rest.length < ts.length) :
    many r context ts = (r >>= fun
      | none => pure []
      | some a => many r >>= fun more => pure (a :: more)) context ts := by
  cases hr : r context ts with
  | error e => rw [many_error hr, bind_error hr]
  | ok x =>
    obtain ⟨o, rest⟩ := x
    cases o with
    | none =>
      rw [many_none hr, bind_ok hr]
      rfl
    | some a =>
      rw [many_some hr (h hr), bind_ok hr, ← bind_pure_comp]

end Cnd.Document.Rule
