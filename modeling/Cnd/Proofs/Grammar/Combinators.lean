import Cnd.Proofs.Grammar.Reads

/-!
# Combinators against productions

What each combinator of the rules does to trees: a symbol in front or at the end, an
alternative to a symbol, a list with commas, a phrase with its keyword. The productions of the
grammar are put together in the same way, so a rule is matched with its production by the
lemmas of its combinators.
-/

namespace Cnd.Document

open Rule

variable {α α' β κ : Type} [Phrase α] [Phrase α']
  {follow follow' stop stop' : List Token → Prop}

/-- Nothing is excluded from what comes next. -/
@[simp] theorem clear_nil (ts : List Token) : Clear [] ts := fun _ _ => List.not_mem_nil

theorem Clear.head_ne {kind : Token.Kind} {ts : List Token} (h : Clear [kind] ts) :
    ∀ t ∈ ts.head?, t.kind ≠ kind :=
  fun t ht heq => h t ht (by simp [heq])

/-! ## Single tokens -/

namespace Reads

/-- A token that has to be there. -/
theorem required {q : Token → Prop} [DecidablePred q] (hq : ∀ t, q t → t.kind ≠ .eof)
    {rule failed : Rule Token}
    (hrule : rule = accept? (fun t => if q t then some t else none) >>= fun
      | some t => return t
      | none => failed)
    (hfailed : ∀ {context : Context} {ts : List Token} {x : Token × List Token},
      failed context ts ≠ .ok x) :
    Reads rule (fun t : {t // q t} => t.1) follow where
  settles := by
    intro context p rest x _ _
    obtain ⟨t, ht⟩ := x
    rw [hrule, tokens_subtype, List.singleton_append]
    exact .of_ok (accept?_take (hq t ht) (if_pos ht)) (.accepted (met_subtype _))
  derives := by
    intro context ts rest u hu
    rw [hrule] at hu
    obtain ⟨o, mid, ho, hmid⟩ := of_bind_ok hu
    rcases of_accept?_ok ho with ⟨rfl, rfl⟩ | ⟨t, c, rfl, rfl, hc, -⟩
    · exact absurd hmid hfailed
    · obtain ⟨rfl, rfl⟩ := of_pure_ok hmid
      by_cases ht : q t
      · rw [if_pos ht] at hc
        cases hc
        exact ⟨⟨t, ht⟩, rfl, rfl, met_subtype _⟩
      · rw [if_neg ht] at hc
        cases hc
  determined := by
    intro x y r s _ _ heq
    obtain ⟨t, ht⟩ := x
    obtain ⟨u, hu⟩ := y
    obtain ⟨rfl, rfl⟩ := List.cons.inj heq
    exact ⟨rfl, rfl⟩

theorem peek_fail_ne_ok {cause : ParseError.Cause} {n : Nat} {context : Context}
    {ts : List Token} {x : β × List Token} :
    (peek n >>= fail cause : Rule β) context ts ≠ .ok x := by
  intro h
  obtain ⟨t, mid, -, h⟩ := of_bind_ok h
  cases h

theorem expect {kind : Token.Kind} (hkind : kind ≠ .eof) :
    Reads (expect kind) (fun t : Tree.Symbol kind => t.1) follow :=
  required (fun t ht => by rwa [ht]) rfl peek_fail_ne_ok

theorem text : Reads text (fun t : Tree.Word => t.1) follow :=
  required (by rintro t (ht | ht) <;> simp [ht]) rfl peek_fail_ne_ok

/-- A token that is read and then checked. -/
theorem checked {q : Token → Prop} {first : Rule Token} {f : Token → Rule β} {value : α → β}
    (h : Reads first (fun t : {t // q t} => t.1) follow) (tree : {t // q t} → α)
    (htree : ∀ x, ∃ t, tree t = x) (htokens : ∀ t, tokens (tree t) = [t.1])
    (hf : ∀ t {context : Context} {rest : List Token},
      Settles (Met context.prefixes (tree t)) (value (tree t)) rest (f t.1 context rest)) :
    Reads (first >>= f) value follow where
  settles := by
    intro context p rest x hend hrest
    obtain ⟨t, rfl⟩ := htree x
    rw [htokens]
    exact ((h.settles t hend hrest).bind (hf t)).congr (and_iff_right (met_subtype t))
  derives := by
    intro context ts rest b hb
    obtain ⟨t, mid, ht, hmid⟩ := of_bind_ok hb
    obtain ⟨t, rfl, rfl, -⟩ := h.derives ht
    -- The check has succeeded, so the conditions that it settles are met.
    have hsettles := @hf t context mid
    rw [hmid] at hsettles
    obtain ⟨rfl, rfl, hmet⟩ := hsettles.of_eq_ok
    exact ⟨tree t, by rw [htokens]; rfl, rfl, hmet⟩
  determined := by
    intro x y r s hr hs heq
    obtain ⟨t, rfl⟩ := htree x
    obtain ⟨u, rfl⟩ := htree y
    rw [htokens, htokens] at heq
    obtain ⟨rfl, rfl⟩ := h.determined hr hs heq
    exact ⟨rfl, rfl⟩

/-- The variant mark may be there or not. -/
theorem variant : Reads variant (fun m : Tree.Mark => m.isSome) (Clear [.question]) where
  settles := by
    intro context p rest x hend hrest
    rcases x with _ | t
    · rw [tokens_none, List.nil_append, Rule.variant, accept_leave hend hrest.head_ne]
      exact .accepted met_none
    · rw [tokens_some, tokens_subtype, List.singleton_append, Rule.variant,
        accept_take t.2 (by decide)]
      exact .accepted (met_subtype t)
  derives := by
    intro context ts rest b hb
    rcases of_accept_ok hb with ⟨rfl, rfl⟩ | ⟨t, rfl, rfl, ht⟩
    · exact ⟨none, rfl, rfl, met_none⟩
    · exact ⟨some ⟨t, ht⟩, rfl, rfl, met_subtype (⟨t, ht⟩ : Tree.Symbol .question)⟩
  determined := by
    intro m n r s hr hs heq
    rcases m with _ | t <;> rcases n with _ | u
    · exact ⟨rfl, heq⟩
    · cases heq
      exact absurd u.2 (hr.head_ne _ rfl)
    · cases heq
      exact absurd t.2 (hs.head_ne _ rfl)
    · obtain ⟨ht, rfl⟩ := List.cons.inj heq
      exact ⟨by rw [Subtype.ext ht], rfl⟩

end Reads

/-! ## Symbols around a tree -/

section Symbol

variable {rule : Rule β} {value : α → β} {kind : Token.Kind}

/-- A tree and a symbol behind it. -/
theorem Reads.upTo (hkind : kind ≠ .eof) (h : Reads rule value follow')
    (hfollow : ∀ {rest}, Ahead [kind] rest → follow' rest) :
    Reads (upTo kind rule) (fun x : α × Tree.Symbol kind => value x.1) follow :=
  h.bind (fun x => (expect hkind).map fun _ => value x)
    fun t _ _ => hfollow ((Begins.symbol kind).ahead t)

/-- A symbol in place of a tree. -/
theorem Reads.orSymbol (hkind : kind ≠ .eof) (b : β) (h : Reads rule value follow)
    (hclear : ∀ (x : α) {rest}, Clear [kind] (tokens x ++ rest)) :
    Reads (orSymbol kind b rule)
      (fun x : Tree.Symbol kind ⊕ α => x.elim (fun _ => b) value) follow where
  settles := by
    intro context p rest x hend hrest
    rcases x with t | x
    · exact .of_ok (accept_take t.2 hkind) (.accepted (met_subtype t))
    · exact .of_ok (accept_leave hend (hclear x).head_ne) (h.settles x hend hrest)
  derives := by
    intro context ts rest c hc
    obtain ⟨found, mid, hfound, hmid⟩ := of_bind_ok hc
    rcases of_accept_ok hfound with ⟨rfl, rfl⟩ | ⟨t, rfl, rfl, ht⟩
    · obtain ⟨x, rfl, rfl, hx⟩ := h.derives hmid
      exact ⟨.inr x, rfl, rfl, hx⟩
    · obtain ⟨rfl, rfl⟩ := of_pure_ok hmid
      exact ⟨.inl ⟨t, ht⟩, rfl, rfl, met_subtype (⟨t, ht⟩ : Tree.Symbol kind)⟩
  determined := by
    intro v w r s hr hs heq
    -- No tree begins with the symbol, so the two sorts never have the same tokens.
    rcases v with t | x <;> rcases w with u | y
    · obtain ⟨ht, rfl⟩ := List.cons.inj heq
      exact ⟨by rw [Subtype.ext ht], rfl⟩
    · have hy := (@hclear y s).head_ne
      rw [← tokens_inr (α := Tree.Symbol kind), ← heq] at hy
      exact absurd t.2 (hy _ rfl)
    · have hx := (@hclear x r).head_ne
      rw [← tokens_inr (α := Tree.Symbol kind), heq] at hx
      exact absurd u.2 (hx _ rfl)
    · obtain ⟨rfl, rfl⟩ := h.determined hr hs heq
      exact ⟨rfl, rfl⟩

/-- The variant mark in place of a tree. -/
theorem Reads.orVariant (h : Reads rule value follow)
    (hclear : ∀ (x : α) {rest}, Clear [.question] (tokens x ++ rest)) :
    Reads (orVariant rule) (Tree.orVariant value) follow :=
  ((h.map some).orSymbol (by decide) none hclear).congr (by rintro (t | x) <;> rfl)

theorem Offers.behind (hkind : kind ≠ .eof)
    (h : Reads rule value follow) :
    Offers (behind kind rule) (fun x : Tree.Symbol kind × α => value x.2) follow
      (Clear [kind]) where
  settles := by
    intro context p rest x hend hrest
    obtain ⟨t, x⟩ := x
    rw [tokens_prod, List.append_assoc, tokens_subtype, List.singleton_append]
    refine .of_ok (accept_take t.2 hkind) ?_
    refine ((h.settles x hend hrest).bind (.accepted trivial)).congr ?_
    simp
  stops hend hts := by
    rw [Rule.behind, bind_ok (accept_leave hend fun t ht heq => hts t ht (by simp [heq]))]
    rfl
  derives := by
    intro context ts rest o hok
    obtain ⟨found, mid, hfound, ho⟩ := of_bind_ok hok
    rcases of_accept_ok hfound with ⟨rfl, rfl⟩ | ⟨t, rfl, rfl, ht⟩
    · obtain ⟨rfl, rfl⟩ := of_pure_ok ho
      exact ⟨none, rfl, rfl, met_none⟩
    · obtain ⟨b, mid, hb, hpure⟩ := of_bind_ok ho
      obtain ⟨x, rfl, rfl, hx⟩ := h.derives hb
      obtain ⟨rfl, rfl⟩ := of_pure_ok hpure
      exact ⟨some (⟨t, ht⟩, x), rfl, rfl, by simpa using hx⟩
  determined := by
    intro x y r s hr hs heq
    obtain ⟨t, x⟩ := x
    obtain ⟨u, y⟩ := y
    simp only [tokens_prod, tokens_subtype, List.singleton_append] at heq
    obtain ⟨ht, heq⟩ := List.cons.inj heq
    obtain ⟨rfl, rfl⟩ := h.determined hr hs heq
    exact ⟨by rw [Subtype.ext ht], rfl⟩
  apart := by
    intro x r s _ hs heq
    obtain ⟨t, x⟩ := x
    subst heq
    exact hs t.1 rfl (by simp [t.2])
  nonempty _ := List.cons_ne_nil _ _

theorem Reads.commaSeparated (h : Reads rule value (Clear [])) :
    Reads (commaSeparated rule) (fun l : Tree.CommaList α => (Tree.members l).map value)
      (Clear [.comma]) := by
  have hcomma : Token.Kind.comma ≠ .eof := by decide
  have hmore := (Offers.behind hcomma h).many fun _ _ => clear_nil _
  have hlist : Reads (Rule.commaSeparated rule)
      (fun l : Tree.CommaList α => value l.1 :: l.2.map fun x => value x.2) (Clear [.comma]) :=
    h.bind (fun x => (hmore.map (value x :: ·)).mono fun hrest => ⟨clear_nil _, hrest⟩)
      fun _ _ _ => clear_nil _
  refine hlist.congr ?_
  rintro ⟨x, l⟩
  simp [Tree.members]

end Symbol

/-! ## Choices -/

section Choice

variable {rule : Rule (Option β)} {value : α → β}

/-- The tokens determine the sort of a tree too: one that is offered is not read where a tree of
the other sort begins. -/
theorem Offers.determined_sum (h : Offers rule value follow stop)
    (h' : ∀ {x y : α'} {r s : List Token},
      follow r → follow s → tokens x ++ r = tokens y ++ s → x = y ∧ r = s)
    (hstop : ∀ (y : α') {rest}, stop (tokens y ++ rest)) {u v : α ⊕ α'} {r s : List Token}
    (hr : follow r) (hs : follow s) (heq : tokens u ++ r = tokens v ++ s) : u = v ∧ r = s := by
  rcases u with x | x <;> rcases v with y | y
  · obtain ⟨rfl, rfl⟩ := h.determined hr hs heq
    exact ⟨rfl, rfl⟩
  · exact absurd heq (h.apart hr (hstop y))
  · exact absurd heq.symm (h.apart hs (hstop x))
  · obtain ⟨rfl, rfl⟩ := h' hr hs heq
    exact ⟨rfl, rfl⟩

/-- A tree of one sort or, where none begins, one of another sort. -/
theorem Offers.orElse {second : Rule (Option β)} {value' : α' → β}
    (h : Offers rule value follow stop) (h' : Offers second value' follow stop')
    (hstop : ∀ (y : α') {rest}, stop (tokens y ++ rest)) :
    Offers (orElse rule second) (Sum.elim value value') follow
      fun ts => stop ts ∧ stop' ts where
  settles := by
    intro context p rest x hend hrest
    rcases x with x | y
    · refine ((h.settles x hend hrest).bind (.accepted trivial)).congr ?_
      simp
    · exact .of_ok (h.stops hend (hstop y)) (h'.settles y hend hrest)
  stops hend hts := by
    rw [Rule.orElse, bind_ok (h.stops hend hts.1)]
    exact h'.stops hend hts.2
  derives := by
    intro context ts rest o ho
    obtain ⟨b, mid, hb, ho⟩ := of_bind_ok ho
    obtain ⟨x, rfl, rfl, hx⟩ := h.derives hb
    cases x with
    | some x =>
      obtain ⟨rfl, rfl⟩ := of_pure_ok ho
      exact ⟨some (.inl x), rfl, rfl, hx⟩
    | none =>
      obtain ⟨y, rfl, rfl, hy⟩ := h'.derives ho
      refine ⟨y.map .inr, ?_, ?_, ?_⟩ <;> cases y <;> first | rfl | exact hy
  determined := h.determined_sum h'.determined hstop
  apart := by
    intro v r s hr hs
    rcases v with x | y
    · exact h.apart hr hs.1
    · exact h'.apart hr hs.2
  nonempty := by
    intro v
    rcases v with x | y
    · exact h.nonempty x
    · exact h'.nonempty y

/-- A tree of one sort or, where none begins, one of another sort that must be there. -/
theorem Reads.otherwise {second : Rule β} {value' : α' → β} (h : Offers rule value follow stop)
    (h' : Reads second value' follow) (hstop : ∀ (y : α') {rest}, stop (tokens y ++ rest)) :
    Reads (otherwise rule second) (fun x : α ⊕ α' => x.elim value value') follow where
  settles := by
    intro context p rest x hend hrest
    rcases x with x | y
    · refine ((h.settles x hend hrest).bind (.accepted trivial)).congr ?_
      simp
    · exact .of_ok (h.stops hend (hstop y)) (h'.settles y hend hrest)
  derives := by
    intro context ts rest c hc
    obtain ⟨b, mid, hb, hmid⟩ := of_bind_ok hc
    obtain ⟨x, rfl, rfl, hx⟩ := h.derives hb
    cases x with
    | some x =>
      obtain ⟨rfl, rfl⟩ := of_pure_ok hmid
      exact ⟨.inl x, rfl, rfl, hx⟩
    | none =>
      obtain ⟨y, rfl, rfl, hy⟩ := h'.derives hmid
      exact ⟨.inr y, rfl, rfl, hy⟩
  determined := h.determined_sum h'.determined hstop

/-- A token that begins a phrase and what belongs behind it. -/
theorem Offers.phrase {words : κ → List String} {symbols : κ → List Token.Kind}
    {A : κ → Type} [∀ k, Phrase (A k)] {f : Token → Option κ} {argument : κ → Rule β}
    {value : (Σ k, Tree.Lead (words k) (symbols k) × A k) → β}
    (hlead : ∀ {t k}, f t = some k ↔ isKeyword (words k) t ∨ t.kind ∈ symbols k)
    (heof : ∀ {t k}, f t = some k → t.kind ≠ .eof)
    (hargument : ∀ k l, Reads (argument k) (fun a => value ⟨k, l, a⟩) follow) :
    Offers (phrase f argument) value follow fun ts => ∀ t ∈ ts.head?, f t = none where
  settles := by
    intro context p rest x hend hrest
    obtain ⟨k, t, a⟩ := x
    have ht : f t.1 = some k := hlead.2 t.2
    refine .of_ok (accept?_take (heof ht) ht) ?_
    refine (((hargument k t).settles a hend hrest).bind (.accepted trivial)).congr ?_
    rw [and_true]
    exact ((met_prod (t, a)).trans (and_iff_right (met_subtype t))).symm
  stops hend hts := by
    rw [Rule.phrase, bind_ok (accept?_leave hend hts)]
    rfl
  derives := by
    intro context ts rest o hok
    obtain ⟨found, mid, hfound, hmid⟩ := of_bind_ok hok
    rcases of_accept?_ok hfound with ⟨rfl, rfl⟩ | ⟨t, k, rfl, rfl, ht, -⟩
    · obtain ⟨rfl, rfl⟩ := of_pure_ok hmid
      exact ⟨none, rfl, rfl, met_none⟩
    · obtain ⟨b, left, hb, hpure⟩ := of_bind_ok hmid
      obtain ⟨a, rfl, rfl, ha⟩ := (hargument k ⟨t, hlead.1 ht⟩).derives hb
      obtain ⟨rfl, rfl⟩ := of_pure_ok hpure
      exact ⟨some ⟨k, ⟨t, hlead.1 ht⟩, a⟩, rfl, rfl,
        (met_prod ((⟨t, hlead.1 ht⟩ : Tree.Lead _ _), a)).2 ⟨met_subtype _, ha⟩⟩
  determined := by
    intro x y r s hr hs heq
    obtain ⟨k, ⟨t, ht⟩, a⟩ := x
    obtain ⟨j, ⟨u, hu⟩, b⟩ := y
    obtain ⟨rfl, heq⟩ := List.cons.inj heq
    -- The first token names its keyword, so it is the same phrase.
    obtain rfl : k = j := Option.some.inj ((hlead.2 ht).symm.trans (hlead.2 hu))
    obtain ⟨rfl, rfl⟩ := (hargument k ⟨t, ht⟩).determined hr hs heq
    exact ⟨rfl, rfl⟩
  apart := by
    intro x r s _ hs heq
    obtain ⟨k, t, a⟩ := x
    subst heq
    have ht : f t.1 = some k := hlead.2 t.2
    rw [hs t.1 rfl] at ht
    cases ht
  nonempty _ := List.cons_ne_nil _ _

end Choice

end Cnd.Document
