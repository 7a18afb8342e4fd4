import Cnd.Proofs.Grammar.Combinators

/-!
# Where a reading halts

A rule that reads tokens up to the end of a text is applied to the same tokens with others behind
them. It halts in front of the next token as it did in front of the end (`Halts`), unless that token
goes on with a tree, or what comes behind the end shows that a tree has ended earlier (`Turns`). The
lemmas take this through the monad and through the combinators of rules.

A rule that ends with a token that it must find does not look behind it (`Closed`).
-/

namespace Cnd.Document

open Rule

variable {α α' β γ : Type} [Phrase α] [Phrase α'] {early : List Token → Prop}
  {ts more front : List Token}

/-! ## What the next token changes -/

/-- There is more to the tokens `ts` in front of others than to `ts` alone: with the next token they
are the beginning of a tree, or a tree ends earlier, in front of what `early` holds of. -/
inductive Turns (early : List Token → Prop) (α : Type) [Phrase α] (ts more : List Token) : Prop
  | on (x : α) (h : ts ++ more.take 1 <+: tokens x)
  | early (x : α) (left : List Token) (h : ts = tokens x ++ left) (hleft : left ≠ [])
      (hearly : early (left ++ more))

/-- No tree ends early. -/
def nowhere (_ : List Token) : Prop := False

namespace Turns

/-- The tree may be put into another one, which may have tokens in front. -/
theorem into (h : Turns early α ts more) (put : α → α')
    (hput : ∀ x, tokens (put x) = front ++ tokens x) : Turns early α' (front ++ ts) more := by
  cases h with
  | on x h =>
    refine .on (put x) ?_
    rw [hput, List.append_assoc]
    exact (List.prefix_append_right_inj front).2 h
  | early x left h hleft hearly =>
    exact .early (put x) left (by rw [hput, h, List.append_assoc]) hleft hearly

theorem cons {t : Token} (h : Turns early α ts more) (put : α → α')
    (hput : ∀ x, tokens (put x) = t :: tokens x) : Turns early α' (t :: ts) more :=
  show Turns early α' ([t] ++ ts) more from h.into put hput

theorem wrap (h : Turns early α ts more) (put : α → α') (hput : ∀ x, tokens (put x) = tokens x) :
    Turns early α' ts more :=
  show Turns early α' ([] ++ ts) more from h.into put hput

/-- Another part may stand behind the tree that goes on. -/
theorem append [hother : Nonempty α'] (h : Turns nowhere α ts more) :
    Turns early (α × α') ts more := by
  obtain ⟨y⟩ := hother
  cases h with
  | on x h => exact .on (x, y) (h.trans (List.prefix_append _ _))
  | early _ _ _ _ hearly => exact hearly.elim

/-- The next token begins a tree. -/
theorem begins {u : Token} {rest us : List Token} (x : α) (h : tokens x = u :: us) :
    Turns early α [] (u :: rest) :=
  .on x (by rw [h]; exact ⟨us, rfl⟩)

theorem anywhere (h : Turns nowhere α ts more) : Turns early α ts more := by
  cases h with
  | on x h => exact .on x h
  | early _ _ _ _ hearly => exact hearly.elim

end Turns

instance {kind : Token.Kind} : Nonempty (Tree.Symbol kind) := ⟨⟨⟨kind, none, .start⟩, rfl⟩⟩

/-! ## Rules that need nothing behind them -/

/-- What the rule reads at the end of a text it reads in front of other tokens as well. -/
def Closed (rule : Rule β) : Prop :=
  ∀ (ending : Except ScanError Position) (more : List Token) ⦃p : Position⦄ ⦃known : List String⦄
    ⦃ts left : List Token⦄ ⦃x : β⦄, rule ⟨.ok p, known⟩ ts = .ok (x, left) →
      rule ⟨ending, known⟩ (ts ++ more) = .ok (x, left ++ more)

namespace Closed

theorem pure (b : β) : Closed (Pure.pure b : Rule β) := by
  intro ending more p known ts left x hx
  obtain ⟨rfl, rfl⟩ := of_pure_ok hx
  rfl

theorem bind {rule : Rule β} {f : β → Rule γ} (h : Closed rule) (hf : ∀ b, Closed (f b)) :
    Closed (rule >>= f) := by
  intro ending more p known ts left x hx
  obtain ⟨b, mid, hb, hmid⟩ := of_bind_ok hx
  rw [bind_ok (h ending more hb)]
  exact hf b ending more hmid

theorem map {rule : Rule β} (h : Closed rule) (g : β → γ) : Closed (g <$> rule) := by
  rw [← bind_pure_comp]
  exact h.bind fun b => .pure (g b)

theorem fail (cause : ParseError.Cause) (t : Token) : Closed (fail cause t : Rule β) := by
  intro ending more p known ts left x hx
  cases hx

/-- A token that has to be there. -/
theorem required {q : Token → Option Token} {cause : ParseError.Cause} {rule : Rule Token}
    (hrule : rule = accept? q >>= fun
      | some t => return t
      | none => peek 0 >>= Rule.fail cause) : Closed rule := by
  intro ending more p known ts left x hx
  rw [hrule] at hx ⊢
  obtain ⟨o, mid, ho, hmid⟩ := of_bind_ok hx
  rcases of_accept?_ok ho with ⟨rfl, rfl⟩ | ⟨t, c, rfl, rfl, hc, heof⟩
  · exact absurd hmid Reads.peek_fail_ne_ok
  · obtain ⟨rfl, rfl⟩ := of_pure_ok hmid
    rw [List.cons_append, bind_ok (accept?_take heof hc)]
    rfl

theorem expect (kind : Token.Kind) : Closed (expect kind) := required rfl

theorem text : Closed text := required rfl

end Closed

/-! ## Rules that halt -/

/-- What the rule reads at the end of a text it reads in front of another token as well, unless that
token goes on with a tree of `α` or a tree ends early. -/
def Halts (early : List Token → Prop) (rule : Rule β) (α : Type) [Phrase α] : Prop :=
  ∀ (ending : Except ScanError Position) (u : Token) (rest : List Token) ⦃p : Position⦄
    ⦃known : List String⦄ ⦃ts left : List Token⦄ ⦃x : β⦄,
    rule ⟨.ok p, known⟩ ts = .ok (x, left) →
      rule ⟨ending, known⟩ (ts ++ u :: rest) = .ok (x, left ++ u :: rest) ∨
        Turns early α ts (u :: rest)

theorem Closed.halts {rule : Rule β} (h : Closed rule) : Halts early rule α :=
  fun ending u rest _ _ _ _ _ hx => .inl (h ending (u :: rest) hx)

/-- A front token that `f` has no value for is left, whether it stands for the end or not. -/
theorem accept?_front {f : Token → Option β} {context : Context} {t : Token}
    (h : t.kind ≠ .eof → f t = none) : accept? f context (t :: ts) = .ok (none, t :: ts) := by
  have hpeek : peek 0 context (t :: ts) = .ok (t, t :: ts) := rfl
  rw [accept?, bind_ok hpeek]
  by_cases ht : t.kind = .eof
  · rw [if_pos ht]
    rfl
  · rw [if_neg ht, h ht]
    rfl

namespace Halts

variable {rule : Rule β} {value : α → β} {follow stop : List Token → Prop} {kind : Token.Kind}

theorem wrap (h : Halts early rule α) (put : α → α') (hput : ∀ x, tokens (put x) = tokens x) :
    Halts early rule α' :=
  fun ending u rest _ _ _ _ _ hx => (h ending u rest hx).imp_right fun hturns =>
    hturns.wrap put hput

theorem inr (h : Halts early rule α') : Halts early rule (α ⊕ α') := h.wrap .inr fun _ => rfl

theorem option (h : Halts early rule α) : Halts early rule (Option α) := h.wrap some fun _ => rfl

theorem pure (b : β) : Halts early (Pure.pure b : Rule β) α := (Closed.pure b).halts

/-- Where the first part is read alike, it is up to the second one. -/
theorem second {f : β → Rule γ} {ending : Except ScanError Position} {p : Position}
    {known : List String} {mid left rest : List Token} {u : Token} {b : β} {x : γ} (y : α)
    (hsame : rule ⟨ending, known⟩ (tokens y ++ mid ++ u :: rest) = .ok (b, mid ++ u :: rest))
    (hf : Halts early (f b) α') (hmid : f b ⟨.ok p, known⟩ mid = .ok (x, left)) :
    (rule >>= f) ⟨ending, known⟩ (tokens y ++ mid ++ u :: rest) = .ok (x, left ++ u :: rest) ∨
      Turns early (α × α') (tokens y ++ mid) (u :: rest) := by
  rw [bind_ok hsame]
  exact (hf ending u rest hmid).imp_right fun hturns => hturns.into (y, ·) fun _ => rfl

/-- One part behind the other. The first one does not end early. -/
theorem bind [Nonempty α'] {f : β → Rule γ} (hreads : Reads rule value follow)
    (h : Halts nowhere rule α) (hf : ∀ b, Halts early (f b) α') :
    Halts early (rule >>= f) (α × α') := by
  intro ending u rest p known ts left x hx
  obtain ⟨b, mid, hb, hmid⟩ := of_bind_ok hx
  obtain ⟨y, rfl, -, -⟩ := hreads.derives hb
  rcases h ending u rest hb with hsame | hturns
  · exact second y hsame (hf b) hmid
  · exact .inr hturns.append

/-- A part with nothing needed behind it, and another one. -/
theorem closed_bind {f : β → Rule γ} (hreads : Reads rule value follow) (h : Closed rule)
    (hf : ∀ b, Halts early (f b) α') : Halts early (rule >>= f) (α × α') := by
  intro ending u rest p known ts left x hx
  obtain ⟨b, mid, hb, hmid⟩ := of_bind_ok hx
  obtain ⟨y, rfl, -, -⟩ := hreads.derives hb
  exact second y (h ending (u :: rest) hb) (hf b) hmid

theorem map (h : Halts early rule α) (g : β → γ) : Halts early (g <$> rule) α := by
  intro ending u rest p known ts left x hx
  obtain ⟨b, hb, rfl⟩ := of_map_ok hx
  refine (h ending u rest hb).imp_left fun hsame => ?_
  rw [← bind_pure_comp, bind_ok hsame]
  rfl

/-! ## Tokens -/

/-- The front token is taken or left; if the next token is taken, it begins a tree. -/
theorem taking {κ : Type} {A : κ → Type} [∀ c, Phrase (A c)] [∀ c, Nonempty (A c)]
    {f : Token → Option κ} {g : Option κ → Rule γ} (put : ∀ t c, f t = some c → A c → α)
    (hput : ∀ t c h x, tokens (put t c h x) = t :: tokens x)
    (htake : ∀ c, Halts early (g (some c)) (A c)) (hleave : Halts early (g none) α) :
    Halts early (accept? f >>= g) α := by
  intro ending u rest p known ts left x hx
  obtain ⟨o, mid, ho, hmid⟩ := of_bind_ok hx
  rcases of_accept?_ok ho with ⟨rfl, rfl⟩ | ⟨t, c, rfl, rfl, hc, heof⟩
  · -- Nothing was taken. The same token is in front of both readings, if there is one.
    cases mid with
    | nil =>
      by_cases hu : ∃ c, f u = some c
      · obtain ⟨c, hc⟩ := hu
        obtain ⟨y⟩ := ‹∀ c, Nonempty (A c)› c
        exact .inr (.begins (put u c hc y) (hput u c hc y))
      · have hnone : f u = none := Option.eq_none_iff_forall_ne_some.2 fun c hc => hu ⟨c, hc⟩
        rw [List.nil_append, bind_ok (accept?_front fun _ => hnone)]
        exact hleave ending u rest hmid
    | cons t ts =>
      have hnone (heof : t.kind ≠ .eof) : f t = none :=
        Option.eq_none_iff_forall_ne_some.2 fun c hc => by
          cases (accept?_take heof hc).symm.trans ho
      rw [List.cons_append, bind_ok (accept?_front hnone)]
      exact hleave ending u rest hmid
  · rw [List.cons_append, bind_ok (accept?_take heof hc)]
    exact (htake c ending u rest hmid).imp_right fun hturns =>
      hturns.cons (put t c hc) (hput t c hc)

/-- A symbol is taken or left. -/
theorem symbol [Nonempty α'] {g : Bool → Rule γ} (put : Tree.Symbol kind → α' → α)
    (hput : ∀ t x, tokens (put t x) = t.1 :: tokens x) (htake : Halts early (g true) α')
    (hleave : Halts early (g false) α) : Halts early (accept kind >>= g) α := by
  have hkind {t : Token} {c : Unit} (h : (if t.kind = kind then some () else none) = some c) :
      t.kind = kind := by
    split at h
    · assumption
    · cases h
  have h : Halts early (accept? (fun t => if t.kind = kind then some () else none) >>=
      fun o => g o.isSome) α :=
    taking (A := fun _ => α') (fun t _ h => put ⟨t, hkind h⟩) (fun t _ h => hput ⟨t, hkind h⟩)
      (fun _ => htake) hleave
  rwa [accept, bind_assoc]

theorem variant : Halts early variant Tree.Mark := by
  have h : Halts early (accept .question >>= Pure.pure) Tree.Mark :=
    symbol (fun t (_ : Unit) => some t) (fun _ _ => rfl) (.pure true) (.pure false)
  rwa [bind_pure] at h

/-! ## Combinators -/

theorem upTo (hreads : Reads rule value follow) (h : Halts nowhere rule α) :
    Halts early (upTo kind rule) (α × Tree.Symbol kind) :=
  h.bind hreads fun b => ((Closed.expect kind).map fun _ => b).halts

theorem behind [Nonempty α] (h : Halts early rule α) :
    Halts early (behind kind rule) (Tree.Symbol kind × α) :=
  symbol (fun t x => (t, x)) (fun _ _ => rfl) (h.map some) (.pure none)

theorem orSymbol (b : β) (h : Halts early rule α) :
    Halts early (orSymbol kind b rule) (Tree.Symbol kind ⊕ α) :=
  symbol (fun t (_ : Unit) => .inl t) (fun _ _ => rfl) (.pure b) h.inr

theorem orVariant (h : Halts early rule α) : Halts early (orVariant rule) (Tree.OrVariant α) :=
  (h.map some).orSymbol none

theorem phrase {κ : Type} {words : κ → List String} {symbols : κ → List Token.Kind}
    {A : κ → Type} [∀ k, Phrase (A k)] [∀ k, Nonempty (A k)] {f : Token → Option κ}
    {argument : κ → Rule β}
    (hlead : ∀ {t k}, f t = some k ↔ isKeyword (words k) t ∨ t.kind ∈ symbols k)
    (hargument : ∀ k, Halts early (argument k) (A k)) :
    Halts early (phrase f argument) (Σ k, Tree.Lead (words k) (symbols k) × A k) :=
  taking (fun t k h a => ⟨k, ⟨t, hlead.1 h⟩, a⟩) (fun _ _ _ _ => rfl)
    (fun k => (hargument k).map some) (.pure none)

section Choice

variable {rule : Rule (Option β)}

/-- Where the first rule has read nothing, the second one is applied to the same tokens. -/
theorem alternative {f : β → γ} {second : Rule γ} (hoffers : Offers rule value follow stop)
    (h : Halts early rule α) (h' : Halts early second α') :
    Halts early (rule >>= fun
      | some a => return f a
      | none => second) (α ⊕ α') := by
  intro ending u rest p known ts left x hx
  obtain ⟨o, mid, ho, hmid⟩ := of_bind_ok hx
  rcases h ending u rest ho with hsame | hturns
  · rw [bind_ok hsame]
    obtain ⟨y, rfl, rfl, -⟩ := hoffers.derives ho
    cases y with
    | some y =>
      obtain ⟨rfl, rfl⟩ := of_pure_ok hmid
      exact .inl rfl
    | none => exact h'.inr ending u rest hmid
  · exact .inr (hturns.wrap .inl fun _ => rfl)

theorem orElse {second : Rule (Option β)} (hoffers : Offers rule value follow stop)
    (h : Halts early rule α) (h' : Halts early second α') :
    Halts early (orElse rule second) (α ⊕ α') :=
  h.alternative (f := some) hoffers h'

theorem otherwise {second : Rule β} (hoffers : Offers rule value follow stop)
    (h : Halts early rule α) (h' : Halts early second α') :
    Halts early (otherwise rule second) (α ⊕ α') :=
  h.alternative (f := id) hoffers h'

/-- Of many trees the last one goes on or ends early, and those in front of it have been read. -/
theorem many (hoffers : Offers rule value follow stop) (h : Halts early rule α) :
    Halts early (many rule) (List α) := by
  intro ending u rest p known ts left x hx
  -- By the number of tokens that are left: each tree takes at least one.
  induction hn : ts.length using Nat.strongRecOn generalizing ts x with
  | ind n ih =>
    subst hn
    rw [many_eq fun hy => hoffers.length_lt hy] at hx ⊢
    obtain ⟨o, mid, ho, hmid⟩ := of_bind_ok hx
    rcases h ending u rest ho with hsame | hturns
    · rw [bind_ok hsame]
      cases o with
      | none =>
        obtain ⟨rfl, rfl⟩ := of_pure_ok hmid
        exact .inl rfl
      | some b =>
        have hless := hoffers.length_lt ho
        obtain ⟨y, rfl, hy, -⟩ := hoffers.derives ho
        obtain ⟨y, rfl, rfl⟩ := Option.map_eq_some_iff.1 hy
        obtain ⟨bs, left', hbs, hpure⟩ := of_bind_ok hmid
        obtain ⟨rfl, rfl⟩ := of_pure_ok hpure
        rcases ih _ hless hbs rfl with hmore | hturns
        · exact .inl ((bind_ok hmore).trans rfl)
        · exact .inr (hturns.into (y :: ·) fun _ => rfl)
    · exact .inr (hturns.wrap (fun y => [y]) fun y => by simp)

end Choice

theorem commaSeparated [Nonempty α] (hreads : Reads rule value (Clear []))
    (h : Halts nowhere rule α) : Halts nowhere (commaSeparated rule) (Tree.CommaList α) :=
  h.bind hreads fun b =>
    (h.behind.many (Offers.behind (by decide : Token.Kind.comma ≠ .eof) hreads)).map (b :: ·)

end Halts

end Cnd.Document
