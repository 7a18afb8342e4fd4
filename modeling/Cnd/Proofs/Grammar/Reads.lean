import Cnd.Proofs.Grammar.Rule
import Cnd.Proofs.Grammar.Tree

/-!
# Rules against trees

What it means that a rule reads the trees of a part of the grammar (`Reads`), and that one may
read a tree or leave all as it is (`Offers`). Each has three parts: on the tokens of a tree the
rule yields its value, or refuses the tree for a condition that is not met; whatever the rule
yields, it has read a tree; and the tokens leave no choice between two trees. The lemmas take
such facts through the combinators that rules are put together from.

How far a tree goes is decided by the tokens behind it, so each fact is about what may follow.
-/

namespace Cnd

/-- Is the error about the prefix of a name or about a list of operators? -/
def ParseError.IsRefusal (e : ParseError) : Prop :=
  (∃ key, e.cause = .unknownPrefix key) ∨ ∃ piece, e.cause = .unknownQueryOperator piece

namespace Document

open Rule

/-! ## What comes next -/

/-- The first token, if there is one, is of one of the kinds. -/
def Ahead (kinds : List Token.Kind) (ts : List Token) : Prop := ∀ t ∈ ts.head?, t.kind ∈ kinds

/-- The first token, if there is one, is of none of the kinds. -/
def Clear (kinds : List Token.Kind) (ts : List Token) : Prop := ∀ t ∈ ts.head?, t.kind ∉ kinds

/-- Every tree begins with a token of one of the kinds. -/
def Begins (α : Type) [Phrase α] (kinds : List Token.Kind) : Prop :=
  ∀ x : α, ∃ t ts, tokens x = t :: ts ∧ t.kind ∈ kinds

section Next

variable {α β : Type} [Phrase α] [Phrase β] {kinds others : List Token.Kind} {rest : List Token}

theorem Ahead.mono (h : Ahead kinds rest) (hsub : kinds ⊆ others) : Ahead others rest :=
  fun t ht => hsub (h t ht)

theorem Ahead.clear (h : Ahead kinds rest) (hdisjoint : ∀ kind ∈ kinds, kind ∉ others) :
    Clear others rest :=
  fun t ht => hdisjoint _ (h t ht)

theorem Clear.mono (h : Clear kinds rest) (hsub : others ⊆ kinds) : Clear others rest :=
  fun t ht hmem => h t ht (hsub hmem)

theorem Begins.mono (h : Begins α kinds) (hsub : kinds ⊆ others) : Begins α others := by
  intro x
  obtain ⟨t, ts, hx, ht⟩ := h x
  exact ⟨t, ts, hx, hsub ht⟩

theorem Begins.ahead (h : Begins α kinds) (x : α) : Ahead kinds (tokens x ++ rest) := by
  obtain ⟨t, ts, hx, ht⟩ := h x
  rw [hx]
  rintro _ ⟨⟩
  exact ht

theorem Begins.tokens_ne_nil (h : Begins α kinds) (x : α) : tokens x ≠ [] := by
  obtain ⟨t, ts, hx, -⟩ := h x
  rw [hx]
  exact List.cons_ne_nil t ts

theorem Begins.symbol (kind : Token.Kind) : Begins (Tree.Symbol kind) [kind] :=
  fun t => ⟨t.1, [], rfl, by simp [t.2]⟩

theorem Begins.prod (h : Begins α kinds) : Begins (α × β) kinds := by
  rintro ⟨a, b⟩
  obtain ⟨t, ts, ha, ht⟩ := h a
  exact ⟨t, ts ++ tokens b, by simp [ha], ht⟩

theorem Begins.sum (ha : Begins α kinds) (hb : Begins β others) :
    Begins (α ⊕ β) (kinds ++ others) := by
  rintro (a | b)
  · exact ha.mono (List.subset_append_left ..) a
  · exact hb.mono (List.subset_append_right ..) b

/-- A part that may be missing does not hide what comes behind it. -/
theorem Begins.ahead_option (h : Begins α kinds) (hrest : Ahead others rest) (o : Option α) :
    Ahead (kinds ++ others) (tokens o ++ rest) := by
  cases o with
  | none => exact hrest.mono (List.subset_append_right ..)
  | some a => exact (h.ahead a).mono (List.subset_append_left ..)

theorem Begins.ahead_list (h : Begins α kinds) (hrest : Ahead others rest) (l : List α) :
    Ahead (kinds ++ others) (tokens l ++ rest) := by
  cases l with
  | nil => exact hrest.mono (List.subset_append_right ..)
  | cons a l =>
    rw [tokens_cons, List.append_assoc]
    exact (h.ahead a).mono (List.subset_append_left ..)

end Next

/-! ## Outcomes -/

/-- The outcome of a rule on the tokens of a tree: its value if the conditions are met, and an
error about one of them if not. -/
inductive Settles {β : Type} (met : Prop) (b : β) (rest : List Token) :
    Except Failure (β × List Token) → Prop where
  | accepted (h : met) : Settles met b rest (.ok (b, rest))
  | refused {e : ParseError} (h : ¬ met) (he : e.IsRefusal) :
      Settles met b rest (.error (.parse e))

namespace Settles

variable {β γ : Type} {met met' : Prop} {b c : β} {d : γ} {context : Context}
  {ts mid rest : List Token} {r : Rule β} {f : β → Rule γ} {o : Except Failure (β × List Token)}

theorem congr (h : Settles met b rest o) (hmet : met ↔ met') : Settles met' b rest o := by
  rwa [← hmet]

theorem of_eq_ok {mid : List Token} (h : Settles met b rest (.ok (c, mid))) :
    b = c ∧ mid = rest ∧ met := by
  cases h with
  | accepted h => exact ⟨rfl, rfl, h⟩

theorem eq_ok (h : Settles met b rest o) (hmet : met) : o = .ok (b, rest) := by
  cases h with
  | accepted => rfl
  | refused hnot => exact absurd hmet hnot

theorem bind (h : Settles met b mid (r context ts))
    (hf : Settles met' d rest (f b context mid)) :
    Settles (met ∧ met') d rest ((r >>= f) context ts) := by
  generalize ho : r context ts = o at h
  cases h with
  | accepted h =>
    rw [bind_ok ho]
    exact hf.congr (by simp [h])
  | refused h he =>
    rw [bind_error ho]
    exact .refused (fun hboth => h hboth.1) he

/-- A step that always succeeds has no say in the outcome. -/
theorem of_ok (h : r context ts = .ok (b, mid)) (hf : Settles met d rest (f b context mid)) :
    Settles met d rest ((r >>= f) context ts) := by
  rwa [bind_ok h]

end Settles

/-! ## Rules that read trees -/

/-- The rule reads the trees of `α`, where `value` says what they denote and `follow` what may
come behind them. -/
structure Reads {α β : Type} [Phrase α] (rule : Rule β) (value : α → β)
    (follow : List Token → Prop) : Prop where
  /-- A tree is read as its value, or refused for its conditions. -/
  settles : ∀ {context : Context} {p : Position} {rest : List Token} (x : α),
    context.ending = .ok p → follow rest →
      Settles (Met context.prefixes x) (value x) rest (rule context (tokens x ++ rest))
  /-- What was read is a tree, and its conditions are met. -/
  derives : ∀ {context : Context} {ts rest : List Token} {b : β},
    rule context ts = .ok (b, rest) →
      ∃ x : α, ts = tokens x ++ rest ∧ value x = b ∧ Met context.prefixes x
  /-- The tokens determine the tree and how far it goes. -/
  determined : ∀ {x y : α} {r s : List Token},
    follow r → follow s → tokens x ++ r = tokens y ++ s → x = y ∧ r = s

namespace Reads

variable {α α' β γ : Type} [Phrase α] [Phrase α'] {rule : Rule β} {value value' : α → β}
  {follow follow' : List Token → Prop}

theorem mono (h : Reads rule value follow) (hfollow : ∀ {rest}, follow' rest → follow rest) :
    Reads rule value follow' where
  settles x hend hrest := h.settles x hend (hfollow hrest)
  derives := h.derives
  determined hr hs := h.determined (hfollow hr) (hfollow hs)

theorem congr (h : Reads rule value follow) (hvalue : ∀ x, value x = value' x) :
    Reads rule value' follow := by
  rwa [← funext hvalue]

/-- Nothing is read, whatever follows. -/
theorem pure (b : β) : Reads (pure b) (fun _ : Unit => b) follow where
  settles _ _ _ := .accepted met_unit
  derives h := by
    obtain ⟨rfl, rfl⟩ := of_pure_ok h
    exact ⟨(), rfl, rfl, met_unit⟩
  determined _ _ h := ⟨rfl, h⟩

/-- One part behind the other. The second may be read by a rule that depends on the value of
the first. -/
theorem bind {f : β → Rule γ} {value' : α × α' → γ} (h : Reads rule value follow)
    (hf : ∀ x, Reads (f (value x)) (fun y => value' (x, y)) follow')
    (hfollow : ∀ (y : α') {rest}, follow' rest → follow (tokens y ++ rest)) :
    Reads (rule >>= f) value' follow' where
  settles := by
    intro context p rest x hend hrest
    obtain ⟨x, y⟩ := x
    rw [tokens_prod, List.append_assoc]
    refine ((h.settles x hend (hfollow y hrest)).bind ((hf x).settles y hend hrest)).congr ?_
    exact (met_prod (x, y)).symm
  derives := by
    intro context ts rest c hc
    obtain ⟨b, mid, hb, hc⟩ := of_bind_ok hc
    obtain ⟨x, rfl, rfl, hx⟩ := h.derives hb
    obtain ⟨y, rfl, rfl, hy⟩ := (hf x).derives hc
    exact ⟨(x, y), by simp, rfl, (met_prod (x, y)).2 ⟨hx, hy⟩⟩
  determined := by
    intro u v r s hr hs heq
    obtain ⟨x, y⟩ := u
    obtain ⟨x', y'⟩ := v
    -- Behind the first part comes the second one, and then what follows both.
    simp only [tokens_prod, List.append_assoc] at heq
    obtain ⟨rfl, hmid⟩ := h.determined (hfollow y hr) (hfollow y' hs) heq
    obtain ⟨rfl, rfl⟩ := (hf x).determined hr hs hmid
    exact ⟨rfl, rfl⟩

/-- The value may be taken further without reading on. -/
theorem map (h : Reads rule value follow) (g : β → γ) :
    Reads (g <$> rule) (fun x => g (value x)) follow where
  settles x hend hrest := by
    rw [← bind_pure_comp]
    refine ((h.settles x hend hrest).bind (.accepted trivial)).congr ?_
    exact and_iff_left trivial
  derives hc := by
    rw [← bind_pure_comp] at hc
    obtain ⟨b, mid, hb, hc⟩ := of_bind_ok hc
    obtain ⟨x, rfl, rfl, hx⟩ := h.derives hb
    obtain ⟨rfl, rfl⟩ := of_pure_ok hc
    exact ⟨x, rfl, rfl, hx⟩
  determined := h.determined

end Reads

/-! ## Rules that may read a tree -/

/-- The rule reads a tree of `α` where one begins, and leaves all as it is in front of what
satisfies `stop`. -/
structure Offers {α β : Type} [Phrase α] (rule : Rule (Option β)) (value : α → β)
    (follow stop : List Token → Prop) : Prop where
  /-- A tree is read as its value, or refused for its conditions. -/
  settles : ∀ {context : Context} {p : Position} {rest : List Token} (x : α),
    context.ending = .ok p → follow rest →
      Settles (Met context.prefixes x) (some (value x)) rest (rule context (tokens x ++ rest))
  /-- Nothing is read where nothing begins. -/
  stops : ∀ {context : Context} {p : Position} {ts : List Token},
    context.ending = .ok p → stop ts → rule context ts = .ok (none, ts)
  /-- What was read is a tree whose conditions are met, or nothing at all. -/
  derives : ∀ {context : Context} {ts rest : List Token} {o : Option β},
    rule context ts = .ok (o, rest) →
      ∃ x : Option α, ts = tokens x ++ rest ∧ x.map value = o ∧ Met context.prefixes x
  /-- The tokens determine the tree and how far it goes. -/
  determined : ∀ {x y : α} {r s : List Token},
    follow r → follow s → tokens x ++ r = tokens y ++ s → x = y ∧ r = s
  /-- No tree begins where nothing is read. -/
  apart : ∀ {x : α} {r s : List Token}, follow r → stop s → tokens x ++ r ≠ s
  /-- A tree has a token. -/
  nonempty : ∀ x : α, tokens x ≠ []

namespace Offers

variable {α α' β γ : Type} [Phrase α] [Phrase α'] {rule : Rule (Option β)} {value : α → β}
  {follow follow' stop stop' : List Token → Prop}

theorem mono (h : Offers rule value follow stop)
    (hfollow : ∀ {rest}, follow' rest → follow rest) (hstop : ∀ {rest}, stop' rest → stop rest) :
    Offers rule value follow' stop' where
  settles x hend hrest := h.settles x hend (hfollow hrest)
  stops hend hts := h.stops hend (hstop hts)
  derives := h.derives
  determined hr hs := h.determined (hfollow hr) (hfollow hs)
  apart hr hs := h.apart (hfollow hr) (hstop hs)
  nonempty := h.nonempty

theorem congr {value' : α → β} (h : Offers rule value follow stop)
    (hvalue : ∀ x, value x = value' x) : Offers rule value' follow stop := by
  rwa [← funext hvalue]

/-- A rule that has read a tree has taken a token. -/
theorem length_lt (h : Offers rule value follow stop) {context : Context} {ts rest : List Token}
    {b : β} (hb : rule context ts = .ok (some b, rest)) : rest.length < ts.length := by
  obtain ⟨x, rfl, hx, -⟩ := h.derives hb
  obtain ⟨x, rfl, -⟩ := Option.map_eq_some_iff.1 hx
  have hlength := List.length_pos_iff.2 (h.nonempty x)
  rw [List.length_append, tokens_some]
  omega

/-- Where there may be a tree or none, the option is read. -/
theorem option (h : Offers rule value follow stop) :
    Reads rule (Option.map value) fun rest => follow rest ∧ stop rest where
  settles := by
    intro context p rest o hend hrest
    rcases o with _ | x
    · rw [tokens_none, List.nil_append, h.stops hend hrest.2]
      exact .accepted met_none
    · exact h.settles x hend hrest.1
  derives := h.derives
  determined := by
    intro o o' r s hr hs heq
    rcases o with _ | x <;> rcases o' with _ | y
    · exact ⟨rfl, heq⟩
    · exact absurd heq.symm (h.apart hs.1 hr.2)
    · exact absurd heq (h.apart hr.1 hs.2)
    · obtain ⟨rfl, rfl⟩ := h.determined hr.1 hs.1 heq
      exact ⟨rfl, rfl⟩

theorem map (h : Offers rule value follow stop) (g : β → γ) :
    Offers (Option.map g <$> rule) (fun x => g (value x)) follow stop where
  settles x hend hrest := by
    rw [← bind_pure_comp]
    refine ((h.settles x hend hrest).bind (.accepted trivial)).congr ?_
    exact and_iff_left trivial
  stops hend hts := by
    rw [← bind_pure_comp, bind_ok (h.stops hend hts)]
    rfl
  derives ho := by
    obtain ⟨b, hb, rfl⟩ := of_map_ok ho
    obtain ⟨x, rfl, rfl, hx⟩ := h.derives hb
    exact ⟨x, rfl, by cases x <;> rfl, hx⟩
  determined := h.determined
  apart := h.apart
  nonempty := h.nonempty

end Offers

/-! ## Repetition -/

section Many

variable {α β : Type} [Phrase α] {rule : Rule (Option β)} {value : α → β}
  {follow follow' stop : List Token → Prop}

/-- In a list each tree has the next one behind it, and the last one what comes behind the
list. -/
theorem follow_tokens (hnext : ∀ (x : α) {rest}, follow (tokens x ++ rest)) (l : List α)
    {rest : List Token} (hrest : follow rest) : follow (tokens l ++ rest) := by
  cases l with
  | nil => exact hrest
  | cons x l =>
    rw [tokens_cons, List.append_assoc]
    exact hnext x

namespace Offers

theorem settles_many (h : Offers rule value follow stop)
    (hnext : ∀ (x : α) {rest}, follow (tokens x ++ rest)) {context : Context} {p : Position}
    {rest : List Token} (hend : context.ending = .ok p) (hfollow : follow rest)
    (hstop : stop rest) (l : List α) :
    Settles (Met context.prefixes l) (l.map value) rest
      (many rule context (tokens l ++ rest)) := by
  induction l with
  | nil =>
    rw [tokens_nil, List.nil_append, many_none (h.stops hend hstop)]
    exact .accepted met_nil
  | cons x l ih =>
    rw [tokens_cons, List.append_assoc]
    have hx := h.settles x hend (follow_tokens hnext l hfollow)
    generalize ho : rule context (tokens x ++ (tokens l ++ rest)) = o at hx
    -- A first tree that is refused decides the outcome; if it is accepted, the others do.
    cases hx with
    | refused hx he =>
      rw [many_error ho]
      exact .refused (fun hboth => hx ((met_cons x l).1 hboth).1) he
    | accepted hx =>
      have hlength := List.length_pos_iff.2 (h.nonempty x)
      rw [many_some ho (by simpa using hlength), ← bind_pure_comp]
      refine (ih.bind (.accepted trivial)).congr ?_
      simp [hx]

theorem derives_many (h : Offers rule value follow stop) {context : Context}
    {ts rest : List Token} {bs : List β} (hbs : many rule context ts = .ok (bs, rest)) :
    ∃ l : List α, ts = tokens l ++ rest ∧ l.map value = bs ∧ Met context.prefixes l := by
  -- By the number of tokens that are left: each tree takes at least one.
  induction hn : ts.length using Nat.strongRecOn generalizing ts bs with
  | ind n ih =>
    subst hn
    cases ho : rule context ts with
    | error e =>
      rw [many_error ho] at hbs
      cases hbs
    | ok r =>
      obtain ⟨o, mid⟩ := r
      obtain ⟨x, rfl, rfl, hx⟩ := h.derives ho
      cases x with
      | none =>
        rw [many_none ho] at hbs
        cases hbs
        exact ⟨[], rfl, rfl, met_nil⟩
      | some x =>
        rw [many_some ho (h.length_lt ho)] at hbs
        obtain ⟨more, hmore, rfl⟩ := of_map_ok hbs
        obtain ⟨l, rfl, rfl, hl⟩ := ih _ (h.length_lt ho) hmore rfl
        exact ⟨x :: l, by simp, rfl, (met_cons x l).2 ⟨hx, hl⟩⟩

theorem determined_list (h : Offers rule value follow stop)
    (hnext : ∀ (x : α) {rest}, follow (tokens x ++ rest)) {r s : List Token}
    (hr : follow r ∧ stop r) (hs : follow s ∧ stop s) {l m : List α}
    (heq : tokens l ++ r = tokens m ++ s) : l = m ∧ r = s := by
  induction l generalizing m with
  | nil =>
    cases m with
    | nil => exact ⟨rfl, heq⟩
    | cons y m =>
      rw [tokens_cons, List.append_assoc] at heq
      exact absurd heq.symm (h.apart (follow_tokens hnext m hs.1) hr.2)
  | cons x l ih =>
    rw [tokens_cons, List.append_assoc] at heq
    cases m with
    | nil => exact absurd heq (h.apart (follow_tokens hnext l hr.1) hs.2)
    | cons y m =>
      rw [tokens_cons, List.append_assoc] at heq
      obtain ⟨rfl, hmid⟩ :=
        h.determined (follow_tokens hnext l hr.1) (follow_tokens hnext m hs.1) heq
      obtain ⟨rfl, rfl⟩ := ih hmid
      exact ⟨rfl, rfl⟩

/-- As many trees as there are, one behind the other. -/
theorem many (h : Offers rule value follow stop)
    (hnext : ∀ (x : α) {rest}, follow (tokens x ++ rest)) :
    Reads (many rule) (List.map value) fun rest => follow rest ∧ stop rest where
  settles l hend hrest := h.settles_many hnext hend hrest.1 hrest.2 l
  derives := h.derives_many
  determined hr hs := h.determined_list hnext hr hs

end Offers

end Many

end Document

end Cnd
