import Cnd.Proofs.Grammar.Combinators
import Cnd.Proofs.Writing.Spelling

/-!
# Parts that can be completed

A rule is prompt if it fails as soon as no tree goes on: the tokens in front of the one that it
blames are the beginning of a tree, and a text can be written behind them that spells the rest of
the tree (`Extends`). Every part of the grammar can be written from its beginning (`Fillable`), so
where one part fails, the parts behind it can be added. The lemmas take promptness through the
combinators that rules are put together from.

Nothing is asked of what may follow a tree. That is only needed where a whole document is read.
-/

namespace Cnd.Document

open Rule Lexical

/-! ## Blamed tokens -/

/-- The tokens `done` stand in front of the token `t`, which may be the one that stands for the
end of the text. -/
inductive Cut (ending : Except ScanError Position) : List Token → List Token → Token → Prop where
  | token (done : List Token) (t : Token) (rest : List Token) : Cut ending (done ++ t :: rest) done t
  | finish {p : Position} (h : ending = .ok p) (done : List Token) : Cut ending done done (.atEnd p)

section Cut

variable {ts rest done : List Token} {t : Token}

theorem Cut.behind {ending : Except ScanError Position} (h : Cut ending ts done t)
    (front : List Token) : Cut ending (front ++ ts) (front ++ done) t := by
  cases h with
  | token done t rest =>
    rw [← List.append_assoc]
    exact .token (front ++ done) t rest
  | finish h => exact .finish h _

/-- A token that is looked at stands in front. -/
theorem cut_of_peek {context : Context} (h : peek 0 context ts = .ok (t, rest)) :
    Cut context.ending ts [] t := by
  obtain ⟨-, hget | ⟨hget, p, hp, rfl⟩⟩ := of_peek_ok h
  · rw [← List.head?_eq_getElem?] at hget
    obtain ⟨rest, rfl⟩ := List.head?_eq_some_iff.1 hget
    exact .token [] t rest
  · rw [List.getElem?_eq_none_iff, Nat.le_zero, List.length_eq_zero_iff] at hget
    subst hget
    exact .finish hp []

end Cut

/-! ## Completions -/

section Completion

variable {α α' β : Type} [Phrase α] [Phrase α'] {known : List String} {done front : List Token}

/-- A text can be written behind the tokens `done` that makes them a tree with the property. -/
def Extends (good : α → Prop) (done : List Token) : Prop :=
  ∃ cs, Apart cs ∧ ∀ rest, Apart rest → ∀ pos, ∃ (x : α) (us : List Token),
    tokens x = done ++ us ∧ good x ∧
      ∀ before, scanFrom before ⟨cs ++ rest, pos⟩ =
        scanFrom (us.reverse ++ before) ⟨rest, pos.after cs⟩

/-- The tree may be put into another one, which may have tokens in front. -/
theorem Extends.into {good : α → Prop} {good' : α' → Prop} (h : Extends good done) (put : α → α')
    (hput : ∀ x, tokens (put x) = front ++ tokens x ∧ (good x → good' (put x))) :
    Extends good' (front ++ done) := by
  obtain ⟨cs, hcs, h⟩ := h
  refine ⟨cs, hcs, fun rest hrest pos => ?_⟩
  obtain ⟨x, us, htokens, hgood, hscan⟩ := h rest hrest pos
  obtain ⟨hfront, hgood'⟩ := hput x
  exact ⟨put x, us, by rw [hfront, htokens, List.append_assoc], hgood' hgood, hscan⟩

theorem Extends.wrap {good : α → Prop} {good' : α' → Prop} (h : Extends good done) (put : α → α')
    (hput : ∀ x, tokens (put x) = tokens x ∧ (good x → good' (put x))) : Extends good' done :=
  show Extends good' ([] ++ done) from h.into put hput

variable (α) in
/-- A tree of `α` can be written, whatever prefixes are known. -/
def Fillable : Prop := ∀ known, Extends (Met known : α → Prop) []

/-- Another part is written behind the tree. -/
theorem Extends.append (h : Extends (Met known : α → Prop) done) (h' : Fillable α') :
    Extends (Met known : α × α' → Prop) done := by
  obtain ⟨cs, hcs, h⟩ := h
  obtain ⟨ds, hds, h'⟩ := h' known
  refine ⟨cs ++ ds, hcs.append hds, fun rest hrest pos => ?_⟩
  obtain ⟨x, us, hx, hmet, hscan⟩ := h (ds ++ rest) (hds.append hrest) pos
  obtain ⟨y, vs, hy, hmet', hscan'⟩ := h' rest hrest (pos.after cs)
  refine ⟨(x, y), us ++ vs, ?_, (met_prod (x, y)).2 ⟨hmet, hmet'⟩, fun before => ?_⟩
  · rw [tokens_prod, hx, hy, List.nil_append, List.append_assoc]
  · rw [List.append_assoc, hscan, hscan', Position.after_append]
    simp

namespace Fillable

/-- What a text spells can be written, if its conditions hold. -/
theorem spelled {cs : List Char} {value : α → β} {b : β} {conds : List Condition}
    (h : Spells cs value b conds) (hconds : ∀ known, ∀ c ∈ conds, c.Holds known) :
    Fillable α := by
  intro known
  -- A blank in front keeps the text apart from a name that ends the tokens before it.
  refine ⟨' ' :: cs, apart_cons cs (by decide), fun rest hrest pos => ?_⟩
  obtain ⟨x, -, rfl, hscan⟩ := h.blank (by decide : Text.isBlank ' ') rest hrest pos
  exact ⟨x, tokens x, rfl, hconds known, hscan⟩

theorem symbol {c : Char} {kind : Token.Kind} (h : Token.Kind.ofSymbol? c = some kind) :
    Fillable (Tree.Symbol kind) :=
  spelled (Spells.symbol h) fun _ => List.forall_mem_nil _

/-- Where there may be nothing, nothing need be written. -/
theorem empty (x : α) (htokens : tokens x = []) (hmet : ∀ known, Met known x) : Fillable α :=
  fun known => ⟨[], apart_nil, fun _ _ _ => ⟨x, [], htokens, hmet known, fun _ => rfl⟩⟩

theorem option : Fillable (Option α) := empty none rfl fun _ => met_none

theorem list : Fillable (List α) := empty [] rfl fun _ => met_nil

theorem prod (h : Fillable α) (h' : Fillable α') : Fillable (α × α') :=
  fun known => (h known).append h'

end Fillable

end Completion

/-! ## Errors -/

section Error

variable {β γ : Type} {context : Context} {ts : List Token} {e : ParseError}

theorem peek_ne_parse {n : Nat} : peek n context ts ≠ .error (.parse e) := by
  intro h
  unfold peek at h
  split at h
  · cases h
  · split at h <;> cases h

/-- An error arises in the first of two rules, or in the second one behind what was read. -/
theorem of_bind_error {r : Rule β} {f : β → Rule γ} {e : Failure}
    (h : (r >>= f) context ts = .error e) :
    r context ts = .error e ∨ ∃ b mid, r context ts = .ok (b, mid) ∧ f b context mid = .error e := by
  cases hr : r context ts with
  | error e' =>
    rw [bind_error hr] at h
    cases h
    exact .inl rfl
  | ok x =>
    rw [bind_ok hr] at h
    exact .inr ⟨x.1, x.2, rfl, h⟩

theorem accept?_ne_parse {f : Token → Option β} : accept? f context ts ≠ .error (.parse e) := by
  intro h
  rcases of_bind_error h with h | ⟨t, mid, -, h⟩
  · exact peek_ne_parse h
  · split at h
    · cases h
    · cases hf : f t with
      | none => rw [hf] at h; cases h
      | some b => rw [hf] at h; cases h

theorem accept_ne_parse {kind : Token.Kind} : accept kind context ts ≠ .error (.parse e) := by
  intro h
  rcases of_bind_error h with h | ⟨o, mid, -, h⟩
  · exact accept?_ne_parse h
  · cases h

end Error

/-! ## Prompt rules -/

variable {α α' β γ : Type} [Phrase α] [Phrase α']

/-- The rule blames a token only where the tokens in front of it go on to a tree of `α`. -/
def Prompt (rule : Rule β) (α : Type) [Phrase α] : Prop :=
  ∀ ⦃context : Context⦄ ⦃ts : List Token⦄ ⦃e : ParseError⦄,
    rule context ts = .error (.parse e) →
      ∃ done, Cut context.ending ts done e.token ∧ Extends (Met context.prefixes : α → Prop) done

namespace Prompt

variable {rule : Rule β} {value : α → β} {follow stop : List Token → Prop} {kind : Token.Kind}

theorem of_ne (h : ∀ {context : Context} {ts : List Token} {e : ParseError},
    rule context ts ≠ .error (.parse e)) : Prompt rule α :=
  fun _ _ _ he => absurd he h

theorem pure (b : β) : Prompt (Pure.pure b : Rule β) α := of_ne fun h => by cases h

theorem variant : Prompt variant α := of_ne accept_ne_parse

/-- Trees of one sort may be trees of another one too. -/
theorem into (h : Prompt rule α) (put : α → α')
    (hput : ∀ {known} x, tokens (put x) = tokens x ∧ (Met known x → Met known (put x))) :
    Prompt rule α' := by
  intro context ts e he
  obtain ⟨done, hcut, hextends⟩ := h he
  exact ⟨done, hcut, hextends.wrap put hput⟩

theorem inl (h : Prompt rule α) : Prompt rule (α ⊕ α') := h.into .inl fun _ => ⟨rfl, id⟩

theorem inr (h : Prompt rule α') : Prompt rule (α ⊕ α') := h.into .inr fun _ => ⟨rfl, id⟩

theorem option (h : Prompt rule α) : Prompt rule (Option α) := h.into some fun _ => ⟨rfl, id⟩

/-- A token that has to be there. -/
theorem required {q : Token → Option Token} {cause : ParseError.Cause} {rule : Rule Token}
    (hrule : rule = accept? q >>= fun
      | some t => return t
      | none => peek 0 >>= fail cause)
    (hfill : Fillable α) : Prompt rule α := by
  intro context ts e he
  rw [hrule] at he
  rcases of_bind_error he with hfirst | ⟨o, mid, ho, hrest⟩
  · exact absurd hfirst accept?_ne_parse
  rcases of_accept?_ok ho with ⟨rfl, rfl⟩ | ⟨t, c, rfl, -⟩
  · rcases of_bind_error hrest with hfirst | ⟨t, mid, hpeek, hfail⟩
    · exact absurd hfirst peek_ne_parse
    · cases hfail
      exact ⟨[], cut_of_peek hpeek, hfill context.prefixes⟩
  · cases hrest

theorem expect {c : Char} (h : Token.Kind.ofSymbol? c = some kind) :
    Prompt (expect kind) (Tree.Symbol kind) :=
  required rfl (.symbol h)

/-- A token that is read and then checked. -/
theorem checked {q : Token → Prop} {first : Rule Token} {f : Token → Rule β}
    (hreads : Reads first (fun t : {t // q t} => t.1) follow) (h : Prompt first α)
    (hf : ∀ {t} {context : Context} {ts : List Token} {e : ParseError},
      f t context ts = .error (.parse e) → e.token = t)
    (hfill : Fillable α) : Prompt (first >>= f) α := by
  intro context ts e he
  rcases of_bind_error he with hfirst | ⟨b, mid, hb, hrest⟩
  · exact h hfirst
  · obtain ⟨t, rfl, rfl, -⟩ := hreads.derives hb
    rw [hf hrest]
    exact ⟨[], .token [] t.1 mid, hfill context.prefixes⟩

/-- One part behind the other: if the first one fails, the second one can be written, and if the
second one fails, the first one has been read. -/
theorem bind {f : β → Rule γ} (hreads : Reads rule value follow) (h : Prompt rule α)
    (hf : ∀ b, Prompt (f b) α') (hfill : Fillable α') : Prompt (rule >>= f) (α × α') := by
  intro context ts e he
  rcases of_bind_error he with hfirst | ⟨b, mid, hb, hrest⟩
  · obtain ⟨done, hcut, hextends⟩ := h hfirst
    exact ⟨done, hcut, hextends.append hfill⟩
  · obtain ⟨x, rfl, rfl, hmet⟩ := hreads.derives hb
    obtain ⟨done, hcut, hextends⟩ := hf _ hrest
    refine ⟨tokens x ++ done, hcut.behind (tokens x), hextends.into (x, ·) fun y => ⟨rfl, ?_⟩⟩
    exact fun hmet' => (met_prod (x, y)).2 ⟨hmet, hmet'⟩

theorem map (h : Prompt rule α) (g : β → γ) : Prompt (g <$> rule) α := by
  intro context ts e he
  rw [← bind_pure_comp] at he
  rcases of_bind_error he with hfirst | ⟨b, mid, -, hrest⟩
  · exact h hfirst
  · cases hrest

/-! ## Symbols around a tree -/

theorem upTo {c : Char} (hc : Token.Kind.ofSymbol? c = some kind)
    (hreads : Reads rule value follow) (h : Prompt rule α) :
    Prompt (upTo kind rule) (α × Tree.Symbol kind) :=
  h.bind hreads (fun b => (expect hc).map fun _ => b) (.symbol hc)

theorem orSymbol (b : β) (h : Prompt rule α) :
    Prompt (orSymbol kind b rule) (Tree.Symbol kind ⊕ α) := by
  intro context ts e he
  rcases of_bind_error he with hfirst | ⟨found, mid, hfound, hrest⟩
  · exact absurd hfirst accept_ne_parse
  · rcases of_accept_ok hfound with ⟨rfl, rfl⟩ | ⟨t, rfl, rfl, ht⟩
    · exact h.inr hrest
    · cases hrest

theorem orVariant (h : Prompt rule α) : Prompt (orVariant rule) (Tree.OrVariant α) :=
  (h.map some).orSymbol none

theorem behind (h : Prompt rule α) : Prompt (behind kind rule) (Tree.Symbol kind × α) := by
  intro context ts e he
  rcases of_bind_error he with hfirst | ⟨found, mid, hfound, hrest⟩
  · exact absurd hfirst accept_ne_parse
  · rcases of_accept_ok hfound with ⟨rfl, rfl⟩ | ⟨t, rfl, rfl, ht⟩
    · cases hrest
    · obtain ⟨done, hcut, hextends⟩ := (h.map some) hrest
      refine ⟨[t] ++ done, hcut.behind [t], ?_⟩
      exact hextends.into (⟨t, ht⟩, ·) fun y => ⟨rfl, id⟩

/-! ## Choices and repetition -/

section Choice

variable {rule : Rule (Option β)}

/-- Where the first rule has read nothing, the second one is applied to the same tokens. -/
theorem alternative {f : β → γ} {second : Rule γ} (hoffers : Offers rule value follow stop)
    (h : Prompt rule α) (h' : Prompt second α') :
    Prompt (rule >>= fun
      | some a => return f a
      | none => second) (α ⊕ α') := by
  intro context ts e he
  rcases of_bind_error he with hfirst | ⟨o, mid, ho, hrest⟩
  · exact h.inl hfirst
  · obtain ⟨x, rfl, rfl, -⟩ := hoffers.derives ho
    cases x with
    | some x => cases hrest
    | none => exact h'.inr hrest

theorem orElse {second : Rule (Option β)} (hoffers : Offers rule value follow stop)
    (h : Prompt rule α) (h' : Prompt second α') : Prompt (orElse rule second) (α ⊕ α') :=
  h.alternative (f := some) hoffers h'

theorem otherwise {second : Rule β} (hoffers : Offers rule value follow stop)
    (h : Prompt rule α) (h' : Prompt second α') : Prompt (otherwise rule second) (α ⊕ α') :=
  h.alternative (f := id) hoffers h'

theorem phrase {κ : Type} {words : κ → List String} {symbols : κ → List Token.Kind}
    {A : κ → Type} [∀ k, Phrase (A k)] {f : Token → Option κ} {argument : κ → Rule β}
    (hlead : ∀ {t k}, f t = some k ↔ isKeyword (words k) t ∨ t.kind ∈ symbols k)
    (hargument : ∀ k, Prompt (argument k) (A k)) :
    Prompt (phrase f argument) (Σ k, Tree.Lead (words k) (symbols k) × A k) := by
  intro context ts e he
  rcases of_bind_error he with hfirst | ⟨o, mid, ho, hrest⟩
  · exact absurd hfirst accept?_ne_parse
  · rcases of_accept?_ok ho with ⟨rfl, rfl⟩ | ⟨t, k, rfl, rfl, ht, -⟩
    · cases hrest
    · obtain ⟨done, hcut, hextends⟩ := ((hargument k).map some) hrest
      refine ⟨[t] ++ done, hcut.behind [t], ?_⟩
      refine hextends.into (fun a => ⟨k, ⟨t, hlead.1 ht⟩, a⟩) fun a => ⟨rfl, ?_⟩
      exact fun hmet => (met_prod ((⟨t, hlead.1 ht⟩ : Tree.Lead _ _), a)).2 ⟨met_subtype _, hmet⟩

/-- Of many trees the last one fails, and those in front of it have been read. -/
theorem many (hoffers : Offers rule value follow stop) (h : Prompt rule α) :
    Prompt (many rule) (List α) := by
  intro context ts e he
  -- By the number of tokens that are left: each tree takes at least one.
  induction hn : ts.length using Nat.strongRecOn generalizing ts with
  | ind n ih =>
    subst hn
    rw [many_eq fun hx => hoffers.length_lt hx] at he
    rcases of_bind_error he with hfirst | ⟨o, mid, ho, hrest⟩
    · obtain ⟨done, hcut, hextends⟩ := h hfirst
      refine ⟨done, hcut, hextends.wrap (fun x => [x]) fun x => ⟨?_, ?_⟩⟩
      · simp
      · exact fun hmet => (met_cons x []).2 ⟨hmet, met_nil⟩
    cases o with
    | none => cases hrest
    | some y =>
      have hless := hoffers.length_lt ho
      obtain ⟨x, rfl, hx, hmet⟩ := hoffers.derives ho
      obtain ⟨x, rfl, rfl⟩ := Option.map_eq_some_iff.1 hx
      rcases of_bind_error hrest with hmore | ⟨l, left, -, hpure⟩
      · obtain ⟨done, hcut, hextends⟩ := ih _ hless hmore rfl
        refine ⟨tokens x ++ done, hcut.behind (tokens x), ?_⟩
        refine hextends.into (x :: ·) fun l => ⟨rfl, ?_⟩
        exact fun hmet' => (met_cons x l).2 ⟨hmet, hmet'⟩
      · cases hpure

end Choice

theorem commaSeparated (hreads : Reads rule value (Clear [])) (h : Prompt rule α) :
    Prompt (commaSeparated rule) (Tree.CommaList α) :=
  h.bind hreads
    (fun b => (h.behind.many (Offers.behind (by decide : Token.Kind.comma ≠ .eof) hreads)).map (b :: ·))
    .list

end Prompt

end Cnd.Document
