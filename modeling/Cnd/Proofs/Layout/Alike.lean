import Cnd.Proofs.Grammar.Rule
import Cnd.Proofs.Lexical.Boundary

/-!
# Two readings side by side

Two scans are alike if they differ in the places of their tokens alone, and the minuses that an
identifier is glued to are the same in both. A rule that is applied to both of them at the same
index goes the same way in both (`Parallel`): it yields related values and stops at the same index,
or it fails for the same cause at the same index. The lemmas take this through the monad and
through the combinators of rules.

The values of a rule are related by a relation of their own, since a rule that takes a token
yields different tokens; a rule that yields the same value in both readings is `Steady`.
-/

namespace Cnd

/-- The tokens agree in everything but their places. -/
structure Token.Alike (t u : Token) : Prop where
  kind : t.kind = u.kind
  data : t.data = u.data

theorem Token.Alike.text {t u : Token} (h : t.Alike u) : t.text = u.text := by
  rw [Token.text, Token.text, h.data]

/-- The token at the index is a minus, and an identifier stands directly behind it. -/
def Glued (ts : List Token) (i : Nat) : Prop :=
  ∃ sign word, ts[i]? = some sign ∧ ts[i + 1]? = some word ∧ sign.kind = .minus ∧
    word.kind = .identifier ∧ word.position.offset = sign.position.offset + 1

/-- Related lists have related entries, and end at the same index. -/
theorem rel_getElem? {α β : Type} {R : α → β → Prop} {l : List α} {l' : List β}
    (h : List.Forall₂ R l l') (i : Nat) : Option.Rel R l[i]? l'[i]? := by
  induction h generalizing i with
  | nil => exact .none
  | cons hxy _ ih =>
    cases i with
    | zero => exact .some hxy
    | succ i => exact ih i

theorem glued_drop (ts : List Token) (k : Nat) : Glued (ts.drop k) 0 ↔ Glued ts k := by
  simp only [Glued, List.getElem?_drop, Nat.add_zero, Nat.zero_add]

namespace Scan

/-- The tokens that a scan delivers, with the one that stands for the end of the text. -/
def delivered (s : Scan) : List Token := (TokenStream.ofScan s).tokens

/-- The scans differ in layout alone: in the places of their tokens, but not in which minuses have
an identifier glued to them. -/
structure Alike (a b : Scan) : Prop where
  tokens : List.Forall₂ Token.Alike a.tokens b.tokens
  glued : ∀ i, Glued a.tokens i ↔ Glued b.tokens i
  flaw : a.flaw = b.flaw

/-- The two tokens are delivered at the same index. -/
def Aligned (a b : Scan) (t u : Token) : Prop :=
  ∃ i : Nat, a.delivered[i]? = some t ∧ b.delivered[i]? = some u

section Delivered

variable {s : Scan}

theorem delivered_of_ok {p : Position} (h : s.ending = .ok p) :
    s.delivered = s.tokens ++ [.atEnd p] := by
  rw [delivered, TokenStream.ofScan, h]

theorem delivered_of_error {e : ScanError} (h : s.ending = .error e) :
    s.delivered = s.tokens := by
  rw [delivered, TokenStream.ofScan, h]

theorem getElem?_delivered {i : Nat} {t : Token} (h : s.tokens[i]? = some t) :
    s.delivered[i]? = some t := by
  cases hend : s.ending with
  | ok p =>
    rw [delivered_of_ok hend, List.getElem?_append_left (List.getElem?_eq_some_iff.1 h).1]
    exact h
  | error e => rwa [delivered_of_error hend]

theorem getElem?_delivered_end {p : Position} (h : s.ending = .ok p) :
    s.delivered[s.tokens.length]? = some (.atEnd p) := by
  rw [delivered_of_ok h]
  simp

theorem of_getElem?_delivered {i : Nat} {t : Token} (h : s.delivered[i]? = some t) :
    s.tokens[i]? = some t ∨ i = s.tokens.length ∧ ∃ p, s.ending = .ok p ∧ t = .atEnd p := by
  cases hend : s.ending with
  | error e =>
    rw [delivered_of_error hend] at h
    exact .inl h
  | ok p =>
    rw [delivered_of_ok hend] at h
    rcases Nat.lt_or_ge i s.tokens.length with hlt | hge
    · rw [List.getElem?_append_left hlt] at h
      exact .inl h
    · rw [List.getElem?_append_right hge, List.getElem?_singleton] at h
      split at h
      · cases h
        exact .inr ⟨by omega, p, rfl, rfl⟩
      · cases h

/-- No token is delivered twice: its index is its own. -/
theorem nodup_delivered (source : String) : (scan source).delivered.Nodup := by
  have hnodup : (scan source).tokens.Nodup :=
    (Lexical.pairwise_offset_scan source).imp fun hless heq => by
      rw [heq] at hless
      exact Int.lt_irrefl _ hless
  cases hend : (scan source).ending with
  | error e => rwa [delivered_of_error hend]
  | ok p =>
    rw [delivered_of_ok hend, List.nodup_append]
    refine ⟨hnodup, by simp, fun t ht u hu htu => Lexical.kind_ne_eof_of_mem_scan ht ?_⟩
    rw [htu, List.mem_singleton.1 hu]
    rfl

end Delivered

namespace Alike

variable {a b : Scan} {t u : Token}

theorem length_eq (h : a.Alike b) : a.tokens.length = b.tokens.length := h.tokens.length_eq

theorem getElem?_tokens (h : a.Alike b) (i : Nat) :
    Option.Rel Token.Alike a.tokens[i]? b.tokens[i]? := rel_getElem? h.tokens i

/-- Both scans come to the end, or neither does. -/
theorem ending (h : a.Alike b) :
    (∃ p q, a.ending = .ok p ∧ b.ending = .ok q) ∨
      ∃ e f, a.ending = .error e ∧ b.ending = .error f := by
  have hflaw := h.flaw
  unfold Scan.flaw at hflaw
  cases ha : a.ending with
  | ok p =>
    cases hb : b.ending with
    | ok q => exact .inl ⟨p, q, rfl, rfl⟩
    | error f => rw [ha, hb] at hflaw; cases hflaw
  | error e =>
    cases hb : b.ending with
    | ok q => rw [ha, hb] at hflaw; cases hflaw
    | error f => exact .inr ⟨e, f, rfl, rfl⟩

/-- Scans that do not come to the end are stopped by the same flaw. -/
theorem cause {e f : ScanError} (h : a.Alike b) (ha : a.ending = .error e)
    (hb : b.ending = .error f) : e.cause = f.cause := by
  have hflaw := h.flaw
  rw [Scan.flaw, Scan.flaw, ha, hb] at hflaw
  exact Option.some.inj hflaw

theorem delivered (h : a.Alike b) : List.Forall₂ Token.Alike a.delivered b.delivered := by
  rcases h.ending with ⟨p, q, ha, hb⟩ | ⟨e, f, ha, hb⟩
  · rw [delivered_of_ok ha, delivered_of_ok hb]
    exact List.rel_append h.tokens (.cons ⟨rfl, rfl⟩ .nil)
  · rw [delivered_of_error ha, delivered_of_error hb]
    exact h.tokens

theorem forall_kind {p : Token.Kind → Prop} (h : a.Alike b) (ha : ∀ t ∈ a.tokens, p t.kind) :
    ∀ u ∈ b.tokens, p u.kind := by
  intro u hu
  obtain ⟨i, hi⟩ := List.mem_iff_getElem?.1 hu
  have hrel := h.getElem?_tokens i
  rw [hi] at hrel
  generalize ht : a.tokens[i]? = o at hrel
  cases hrel with
  | some htu => exact htu.kind ▸ ha _ (List.mem_of_getElem? ht)

/-- Tokens at the same index agree in everything but their places. -/
theorem aligned (h : a.Alike b) (htu : a.Aligned b t u) : t.Alike u := by
  obtain ⟨i, ht, hu⟩ := htu
  obtain ⟨hi, rfl⟩ := List.getElem?_eq_some_iff.1 ht
  obtain ⟨hi', rfl⟩ := List.getElem?_eq_some_iff.1 hu
  exact List.Forall₂.get h.delivered hi hi'

end Alike

end Scan

namespace Document

open Rule

/-! ## Outcomes -/

section Parallel

variable {α β γ δ κ : Type} {a b : Scan} {R : α → β → Prop} {S : γ → δ → Prop}

/-- The outcomes of two readings: related values at the same index, an error with the same cause
at the same index, or the errors that the two scans ended with. -/
inductive Outcome (a b : Scan) (R : α → β → Prop) :
    Except Failure (α × List Token) → Except Failure (β × List Token) → Prop
  | ok {x : α} {y : β} (h : R x y) (k : Nat) :
      Outcome a b R (.ok (x, a.tokens.drop k)) (.ok (y, b.tokens.drop k))
  | parse {t u : Token} (cause : ParseError.Cause) (h : a.Aligned b t u) :
      Outcome a b R (.error (.parse ⟨cause, t⟩)) (.error (.parse ⟨cause, u⟩))
  | scan {e f : ScanError} (ha : a.ending = .error e) (hb : b.ending = .error f) :
      Outcome a b R (.error (.scan e)) (.error (.scan f))

/-- Where both scans are read from the same index on, the rules have matching outcomes. -/
def Parallel (a b : Scan) (R : α → β → Prop) (r : Rule α) (r' : Rule β) : Prop :=
  ∀ (known : List String) (k : Nat),
    Outcome a b R (r ⟨a.ending, known⟩ (a.tokens.drop k)) (r' ⟨b.ending, known⟩ (b.tokens.drop k))

/-- The rule yields the same value from both scans. -/
abbrev Steady (a b : Scan) (r : Rule α) : Prop := Parallel a b Eq r r

/-! ## The monad -/

theorem Parallel.pure {x : α} {y : β} (h : R x y) : Parallel a b R (pure x) (pure y) :=
  fun _ k => .ok h k

theorem Parallel.bind {r : Rule α} {r' : Rule β} {f : α → Rule γ} {g : β → Rule δ}
    (h : Parallel a b R r r') (hf : ∀ x y, R x y → Parallel a b S (f x) (g y)) :
    Parallel a b S (r >>= f) (r' >>= g) := by
  intro known k
  have ho := h known k
  generalize hr : r ⟨a.ending, known⟩ (a.tokens.drop k) = o at ho
  generalize hr' : r' ⟨b.ending, known⟩ (b.tokens.drop k) = o' at ho
  cases ho with
  | ok hxy j =>
    rw [bind_ok hr, bind_ok hr']
    exact hf _ _ hxy known j
  | parse cause htu =>
    rw [bind_error hr, bind_error hr']
    exact .parse cause htu
  | scan ha hb =>
    rw [bind_error hr, bind_error hr']
    exact .scan ha hb

theorem Steady.pure (x : α) : Steady a b (Pure.pure x) := Parallel.pure rfl

theorem Steady.bind {r : Rule α} {f : α → Rule γ} (h : Steady a b r)
    (hf : ∀ x, Steady a b (f x)) : Steady a b (r >>= f) :=
  Parallel.bind h fun x _ hxy => hxy ▸ hf x

theorem Steady.map {r : Rule α} (h : Steady a b r) (f : α → γ) : Steady a b (f <$> r) := by
  rw [← bind_pure_comp]
  exact h.bind fun x => .pure (f x)

theorem Steady.ite {r r' : Rule α} {c : Prop} [Decidable c] (h : Steady a b r)
    (h' : Steady a b r') : Steady a b (if c then r else r') := by
  split
  · exact h
  · exact h'

theorem parallel_fail {t u : Token} (cause : ParseError.Cause) (h : a.Aligned b t u) :
    Parallel a b R (fail cause t) (fail cause u) :=
  fun _ _ => .parse cause h

theorem steady_drop (n : Nat) : Steady a b (modify (·.drop n)) := by
  intro known k
  have h := Outcome.ok (a := a) (b := b) (rfl : PUnit.unit = PUnit.unit) (k + n)
  rwa [← List.drop_drop, ← List.drop_drop] at h

/-- The same prefixes are known in both readings. -/
theorem parallel_context :
    Parallel a b (fun c d => c.prefixes = d.prefixes) (MonadReader.read : Rule Context)
      MonadReader.read := by
  intro known k
  have hprefixes : (⟨a.ending, known⟩ : Context).prefixes =
    (⟨b.ending, known⟩ : Context).prefixes := rfl
  exact Outcome.ok (R := fun c d : Context => c.prefixes = d.prefixes) hprefixes k

/-! ## Tokens -/

theorem peek_parallel (hab : a.Alike b) (n : Nat) :
    Parallel a b (a.Aligned b) (peek n) (peek n) := by
  intro known k
  rw [peek, peek, List.getElem?_drop, List.getElem?_drop]
  have hrel := hab.getElem?_tokens (k + n)
  generalize ht : a.tokens[k + n]? = o at hrel
  generalize hu : b.tokens[k + n]? = o' at hrel
  cases hrel with
  | some =>
    exact .ok ⟨k + n, Scan.getElem?_delivered ht, Scan.getElem?_delivered hu⟩ k
  | none =>
    rcases hab.ending with ⟨p, q, ha, hb⟩ | ⟨e, f, ha, hb⟩
    · simp only [ha, hb]
      have hend := Scan.getElem?_delivered_end hb
      rw [← hab.length_eq] at hend
      exact .ok ⟨a.tokens.length, Scan.getElem?_delivered_end ha, hend⟩ k
    · simp only [ha, hb]
      exact .scan ha hb

/-- The front token is taken in both readings or in neither. -/
theorem accept?_parallel (hab : a.Alike b) {f : Token → Option α} {g : Token → Option β}
    (hf : ∀ t u, a.Aligned b t u → Option.Rel R (f t) (g u)) :
    Parallel a b (Option.Rel R) (accept? f) (accept? g) := by
  refine (peek_parallel hab 0).bind fun t u htu => ?_
  have hkind := (hab.aligned htu).kind
  by_cases heof : t.kind = .eof
  · rw [if_pos heof, if_pos (hkind ▸ heof)]
    exact .pure .none
  rw [if_neg heof, if_neg (hkind ▸ heof)]
  have hrel := hf t u htu
  generalize f t = o at hrel
  generalize g u = o' at hrel
  cases hrel with
  | none => exact .pure .none
  | some hxy => exact Parallel.bind (steady_drop 1) fun _ _ _ => .pure (.some hxy)

/-- A token is taken by its kind, which is the same in both readings. -/
theorem taken_parallel (hab : a.Alike b) {p : Token.Kind → Prop} [DecidablePred p] :
    Parallel a b (Option.Rel (a.Aligned b)) (accept? fun t => if p t.kind then some t else none)
      (accept? fun t => if p t.kind then some t else none) := by
  refine accept?_parallel hab fun t u htu => ?_
  have hkind := (hab.aligned htu).kind
  by_cases ht : p t.kind
  · rw [if_pos ht, if_pos (hkind ▸ ht)]
    exact .some htu
  · rw [if_neg ht, if_neg (hkind ▸ ht)]
    exact .none

theorem accept_steady (hab : a.Alike b) (kind : Token.Kind) : Steady a b (accept kind) := by
  have h : Parallel a b (Option.Rel fun _ _ : Unit => True)
      (accept? fun t => if t.kind = kind then some () else none)
      (accept? fun t => if t.kind = kind then some () else none) := by
    refine accept?_parallel hab fun t u htu => ?_
    rw [(hab.aligned htu).kind]
    split
    · exact .some trivial
    · exact .none
  refine h.bind fun x y hxy => ?_
  cases hxy with
  | none => exact .pure rfl
  | some => exact .pure rfl

theorem expect_parallel (hab : a.Alike b) (kind : Token.Kind) :
    Parallel a b (a.Aligned b) (expect kind) (expect kind) := by
  refine (taken_parallel (p := (· = kind)) hab).bind fun x y hxy => ?_
  cases hxy with
  | none => exact (peek_parallel hab 0).bind fun t u htu => parallel_fail _ htu
  | some htu => exact .pure htu

theorem text_parallel (hab : a.Alike b) : Parallel a b (a.Aligned b) text text := by
  refine (taken_parallel (p := fun k => k = .string ∨ k = .identifier) hab).bind fun x y hxy => ?_
  cases hxy with
  | none => exact (peek_parallel hab 0).bind fun t u htu => parallel_fail _ htu
  | some htu => exact .pure htu

end Parallel

/-! ## Combinators -/

section Combinators

variable {α κ : Type} {a b : Scan}

theorem Steady.behind (hab : a.Alike b) (kind : Token.Kind) {r : Rule α} (h : Steady a b r) :
    Steady a b (behind kind r) :=
  (accept_steady hab kind).bind fun _ => .ite (h.bind fun x => .pure (some x)) (.pure none)

theorem Steady.upTo (hab : a.Alike b) (kind : Token.Kind) {r : Rule α} (h : Steady a b r) :
    Steady a b (upTo kind r) :=
  Steady.bind h fun _ => (expect_parallel hab kind).bind fun _ _ _ => Parallel.pure rfl

theorem Steady.orSymbol (hab : a.Alike b) (kind : Token.Kind) (x : α) {r : Rule α}
    (h : Steady a b r) : Steady a b (orSymbol kind x r) :=
  (accept_steady hab kind).bind fun _ => .ite (.pure x) h

theorem Steady.orVariant (hab : a.Alike b) {r : Rule α} (h : Steady a b r) :
    Steady a b (orVariant r) :=
  (h.map some).orSymbol hab .question none

theorem Steady.orElse {first second : Rule (Option α)} (h : Steady a b first)
    (h' : Steady a b second) : Steady a b (orElse first second) := by
  refine h.bind fun x => ?_
  cases x with
  | none => exact h'
  | some x => exact .pure (some x)

theorem Steady.otherwise {first : Rule (Option α)} {second : Rule α} (h : Steady a b first)
    (h' : Steady a b second) : Steady a b (otherwise first second) := by
  refine h.bind fun x => ?_
  cases x with
  | none => exact h'
  | some x => exact .pure x

/-- A phrase is begun by the kind and the text of a token. -/
theorem Steady.phrase (hab : a.Alike b) {f : Token → Option κ}
    (hf : ∀ t u : Token, t.Alike u → f t = f u) {argument : κ → Rule α}
    (h : ∀ k, Steady a b (argument k)) : Steady a b (phrase f argument) := by
  have haccept : Parallel a b (Option.Rel Eq) (accept? f) (accept? f) := by
    refine accept?_parallel hab fun t u htu => ?_
    rw [hf t u (hab.aligned htu)]
    cases f u with
    | none => exact .none
    | some k => exact .some rfl
  refine haccept.bind fun x y hxy => ?_
  cases hxy with
  | none => exact .pure rfl
  | some hk =>
    subst hk
    exact (h _).bind fun x => .pure (some x)

/-- A rule is applied equally often in both readings. -/
theorem Steady.many (hab : a.Alike b) {r : Rule (Option α)} (h : Steady a b r) :
    Steady a b (many r) := by
  intro known k
  -- By the number of tokens that are left, which is the same in both readings.
  induction hn : (a.tokens.drop k).length using Nat.strongRecOn generalizing k with
  | ind n ih =>
    subst hn
    have hlength (j : Nat) : (b.tokens.drop j).length = (a.tokens.drop j).length := by
      rw [List.length_drop, List.length_drop, hab.length_eq]
    have ho := h known k
    generalize hr : r ⟨a.ending, known⟩ (a.tokens.drop k) = o at ho
    generalize hr' : r ⟨b.ending, known⟩ (b.tokens.drop k) = o' at ho
    rw [Rule.many, Rule.many, hr, hr']
    cases ho with
    | parse cause htu => exact .parse cause htu
    | scan ha hb => exact .scan ha hb
    | @ok x y hxy j =>
      subst hxy
      cases x with
      | none => exact .ok rfl j
      | some x =>
        simp only [hlength]
        by_cases hless : (a.tokens.drop j).length < (a.tokens.drop k).length
        · have hmore := ih _ hless j rfl
          generalize Rule.many r ⟨a.ending, known⟩ (a.tokens.drop j) = m at hmore
          generalize Rule.many r ⟨b.ending, known⟩ (b.tokens.drop j) = m' at hmore
          rw [dif_pos hless, dif_pos hless]
          cases hmore with
          | ok hxs i => exact .ok (congrArg (x :: ·) hxs) i
          | parse cause htu => exact .parse cause htu
          | scan ha hb => exact .scan ha hb
        · rw [dif_neg hless, dif_neg hless]
          exact .ok rfl j

theorem Steady.commaSeparated (hab : a.Alike b) {r : Rule α} (h : Steady a b r) :
    Steady a b (commaSeparated r) :=
  h.bind fun x => ((h.behind hab .comma).many hab).bind fun l => .pure (x :: l)

end Combinators

end Document

end Cnd
