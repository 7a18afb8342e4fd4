import Cnd.Proofs.Lookahead.Combinators

/-!
# Readings that know more prefixes

The same tokens are read twice, the second time with more prefixes known. As long as no prefix is
missed, both readings go the same way. Where the first one misses a prefix, the second one misses it
too, or it knows the prefix and goes on behind the name; what comes of it then is not said, but that
it does not turn back (`Eased`). The lemmas take this through the monad and through the combinators
of rules.
-/

namespace Cnd.Document

open Rule

variable {α β γ : Type} {s : Scan} {k l : Nat} {more known known' : List String}
variable {o o' : Except Failure (β × List Token)}

/-- The prefixes of the second list are those of the first one and some more. -/
def Adds (more known known' : List String) : Prop := ∀ key, key ∈ known' ↔ key ∈ known ∨ key ∈ more

/-- Nothing is added to a list that has all the prefixes already. -/
theorem Adds.again (h : Adds more known known') : Adds more known' known' :=
  fun key => ⟨.inl, fun hkey => hkey.elim id fun hmore => (h key).2 (.inr hmore)⟩

theorem Adds.cons (h : Adds more known known') (key : String) :
    Adds more (key :: known) (key :: known') := by
  intro other
  rw [List.mem_cons, List.mem_cons, h other, or_assoc]

/-! ## Outcomes -/

/-- Reading went on from an index: it stopped there or behind it, or failed at a token that is not
in front of it, or met the error of the scan. -/
inductive Onward (s : Scan) (k : Nat) : Except Failure (β × List Token) → Prop
  | ok {x : β} {j : Nat} (hk : k ≤ j) (hj : j ≤ s.tokens.length) :
      Onward s k (.ok (x, s.tokens.drop j))
  | parse {e : ParseError} {i : Nat} (hk : k ≤ i) (hi : s.delivered[i]? = some e.token) :
      Onward s k (.error (.parse e))
  | scan {e : ScanError} : Onward s k (.error (.scan e))

/-- The outcome of a reading from an index on, beside that of a reading that knows more prefixes.
They are the same, unless the first one fails for a prefix that is one of the additional ones. -/
inductive Eased (s : Scan) (more : List String) (k : Nat) :
    Except Failure (β × List Token) → Except Failure (β × List Token) → Prop
  | ok {x : β} {j : Nat} (hk : k ≤ j) (hj : j ≤ s.tokens.length) :
      Eased s more k (.ok (x, s.tokens.drop j)) (.ok (x, s.tokens.drop j))
  | parse {e : ParseError} {i : Nat} (hk : k ≤ i) (hi : s.delivered[i]? = some e.token)
      (hcause : ∀ key, e.cause ≠ .unknownPrefix key) :
      Eased s more k (.error (.parse e)) (.error (.parse e))
  | scan {e : ScanError} : Eased s more k (.error (.scan e)) (.error (.scan e))
  | missed {key : String} {t : Token} {i : Nat} (hk : k ≤ i) (hi : s.delivered[i]? = some t)
      (hkey : key ∉ more) :
      Eased s more k (.error (.parse ⟨.unknownPrefix key, t⟩))
        (.error (.parse ⟨.unknownPrefix key, t⟩))
  | found {key : String} {t : Token} {i : Nat} {o : Except Failure (β × List Token)} (hk : k ≤ i)
      (hi : s.delivered[i]? = some t) (hkey : key ∈ more) (h : Onward s (i + 1) o) :
      Eased s more k (.error (.parse ⟨.unknownPrefix key, t⟩)) o

theorem Onward.mono (h : Onward s l o) (hk : k ≤ l) : Onward s k o := by
  cases h with
  | ok hl hj => exact .ok (Nat.le_trans hk hl) hj
  | parse hl hi => exact .parse (Nat.le_trans hk hl) hi
  | scan => exact .scan

theorem Onward.bind {rule : Rule β} {f : β → Rule γ} {ts : List Token}
    (h : Onward s k (rule ⟨s.ending, known⟩ ts))
    (hf : ∀ {x j}, rule ⟨s.ending, known⟩ ts = .ok (x, s.tokens.drop j) → k ≤ j →
      j ≤ s.tokens.length → Onward s j (f x ⟨s.ending, known⟩ (s.tokens.drop j))) :
    Onward s k ((rule >>= f) ⟨s.ending, known⟩ ts) := by
  generalize hr : rule ⟨s.ending, known⟩ ts = o at h
  cases h with
  | ok hk hj =>
    rw [bind_ok hr]
    exact (hf hr hk hj).mono hk
  | parse hk hi =>
    rw [bind_error hr]
    exact .parse hk hi
  | scan =>
    rw [bind_error hr]
    exact .scan

namespace Eased

theorem mono (h : Eased s more l o o') (hk : k ≤ l) : Eased s more k o o' := by
  cases h with
  | ok hl hj => exact .ok (Nat.le_trans hk hl) hj
  | parse hl hi hcause => exact .parse (Nat.le_trans hk hl) hi hcause
  | scan => exact .scan
  | missed hl hi hkey => exact .missed (Nat.le_trans hk hl) hi hkey
  | found hl hi hkey h => exact .found (Nat.le_trans hk hl) hi hkey h

/-- The first reading goes on in any case. -/
theorem onward (h : Eased s more k o o') : Onward s k o := by
  cases h with
  | ok hk hj => exact .ok hk hj
  | parse hk hi _ => exact .parse hk hi
  | scan => exact .scan
  | missed hk hi _ => exact .parse hk hi
  | found hk hi _ _ => exact .parse hk hi

/-- What is done with the values of both readings comes out like the readings themselves. If only
the second one has a value, what is done with it goes on. -/
theorem bind {rule : Rule β} {f : β → Rule γ} {ts us : List Token}
    (h : Eased s more k (rule ⟨s.ending, known⟩ ts) (rule ⟨s.ending, known'⟩ us))
    (hf : ∀ {x j}, rule ⟨s.ending, known⟩ ts = .ok (x, s.tokens.drop j) → j ≤ s.tokens.length →
      Eased s more j (f x ⟨s.ending, known⟩ (s.tokens.drop j))
        (f x ⟨s.ending, known'⟩ (s.tokens.drop j)))
    (hf' : ∀ {x j}, rule ⟨s.ending, known'⟩ us = .ok (x, s.tokens.drop j) → j ≤ s.tokens.length →
      Onward s j (f x ⟨s.ending, known'⟩ (s.tokens.drop j))) :
    Eased s more k ((rule >>= f) ⟨s.ending, known⟩ ts) ((rule >>= f) ⟨s.ending, known'⟩ us) := by
  generalize hr : rule ⟨s.ending, known⟩ ts = o at h
  generalize hr' : rule ⟨s.ending, known'⟩ us = o' at h
  cases h with
  | ok hk hj =>
    rw [bind_ok hr, bind_ok hr']
    exact (hf hr hj).mono hk
  | parse hk hi hcause =>
    rw [bind_error hr, bind_error hr']
    exact .parse hk hi hcause
  | scan =>
    rw [bind_error hr, bind_error hr']
    exact .scan
  | missed hk hi hkey =>
    rw [bind_error hr, bind_error hr']
    exact .missed hk hi hkey
  | found hk hi hkey h =>
    rw [bind_error hr]
    rw [← hr'] at h
    exact .found hk hi hkey (h.bind fun hx _ hj => hf' hx hj)

/-- The same token is looked at in both readings. -/
theorem peek {f : Token → Rule β} {n : Nat}
    (hf : ∀ t, s.look (k + n) = .ok t → Eased s more k (f t ⟨s.ending, known⟩ (s.tokens.drop k))
      (f t ⟨s.ending, known'⟩ (s.tokens.drop k))) :
    Eased s more k ((peek n >>= f) ⟨s.ending, known⟩ (s.tokens.drop k))
      ((peek n >>= f) ⟨s.ending, known'⟩ (s.tokens.drop k)) := by
  cases ht : s.look (k + n) with
  | error e =>
    have hpeek (known : List String) := peek_eq_look s known k n
    simp only [ht] at hpeek
    rw [bind_error (hpeek known), bind_error (hpeek known')]
    exact .scan
  | ok t =>
    rw [bind_ok (peek_of_look ht), bind_ok (peek_of_look ht)]
    exact hf t ht

end Eased

/-! ## Rules -/

/-- Wherever the rule is applied in both readings, its outcomes stand beside each other. -/
def Eases (s : Scan) (more : List String) (rule : Rule β) : Prop :=
  ∀ known known' : List String, Adds more known known' → ∀ k ≤ s.tokens.length,
    Eased s more k (rule ⟨s.ending, known⟩ (s.tokens.drop k))
      (rule ⟨s.ending, known'⟩ (s.tokens.drop k))

namespace Eases

variable {rule : Rule β}

/-- Where the additional prefixes are known, nothing more can be missed. -/
theorem onward (h : Eases s more rule) (hadds : Adds more known known') (hk : k ≤ s.tokens.length) :
    Onward s k (rule ⟨s.ending, known'⟩ (s.tokens.drop k)) :=
  (h known' known' hadds.again k hk).onward

theorem pure (x : β) : Eases s more (Pure.pure x : Rule β) :=
  fun _ _ _ _ hk => .ok (Nat.le_refl _) hk

theorem bind {f : β → Rule γ} (h : Eases s more rule) (hf : ∀ x, Eases s more (f x)) :
    Eases s more (rule >>= f) :=
  fun known known' hadds k hk => (h known known' hadds k hk).bind
    (fun _ hj => hf _ known known' hadds _ hj) fun _ hj => (hf _).onward hadds hj

theorem map (h : Eases s more rule) (g : β → γ) : Eases s more (g <$> rule) := by
  rw [← bind_pure_comp]
  exact h.bind fun x => .pure (g x)

theorem ite {r : Rule β} {c : Prop} [Decidable c] (h : Eases s more rule) (h' : Eases s more r) :
    Eases s more (if c then rule else r) := by
  split
  · exact h
  · exact h'

/-! ## Tokens -/

theorem peek (n : Nat) : Eases s more (peek n) := by
  intro known known' _ k hk
  rw [← bind_pure (Rule.peek n)]
  exact .peek fun t _ => .ok (Nat.le_refl k) hk

theorem accept? (f : Token → Option β) : Eases s more (accept? f) := by
  intro known known' _ k hk
  cases ht : s.look k with
  | error e =>
    rw [accept?_of_look_error ht, accept?_of_look_error ht]
    exact .scan
  | ok t =>
    by_cases htaken : t.kind ≠ .eof ∧ ∃ c, f t = some c
    · obtain ⟨heof, c, hc⟩ := htaken
      rw [accept?_of_look_take ht heof hc, accept?_of_look_take ht heof hc]
      exact .ok (Nat.le_succ k) (Scan.lt_of_look ht heof)
    · have hnone (heof : t.kind ≠ .eof) : f t = none :=
        Option.eq_none_iff_forall_ne_some.2 fun c hc => htaken ⟨heof, c, hc⟩
      rw [accept?_of_look_leave ht hnone, accept?_of_look_leave ht hnone]
      exact .ok (Nat.le_refl k) hk

theorem accept (kind : Token.Kind) : Eases s more (accept kind) :=
  (accept? _).bind fun _ => .pure _

/-- A token that has to be there, and what is done with it. It is taken without regard to the
prefixes, and where another one stands, that one is blamed. -/
theorem taken {p : Token → Prop} [DecidablePred p] {cause : ParseError.Cause} {first : Rule Token}
    {f : Token → Rule β} (hfirst : first = Rule.accept? (fun t => if p t then some t else none) >>=
      fun
      | some t => return t
      | none => Rule.peek 0 >>= fail cause)
    (hcause : ∀ key, cause ≠ .unknownPrefix key)
    (hf : ∀ {known known' k t}, Adds more known known' → s.tokens[k]? = some t →
      Eased s more k (f t ⟨s.ending, known⟩ (s.tokens.drop (k + 1)))
        (f t ⟨s.ending, known'⟩ (s.tokens.drop (k + 1)))) :
    Eases s more (first >>= f) := by
  rw [hfirst, bind_assoc]
  intro known known' hadds k hk
  cases ht : s.look k with
  | error e =>
    rw [bind_error (accept?_of_look_error ht), bind_error (accept?_of_look_error ht)]
    exact .scan
  | ok t =>
    by_cases htaken : t.kind ≠ .eof ∧ p t
    · have hq : (if p t then some t else none) = some t := if_pos htaken.2
      rw [bind_ok (accept?_of_look_take ht htaken.1 hq),
        bind_ok (accept?_of_look_take ht htaken.1 hq)]
      exact hf hadds (Scan.getElem?_of_look ht htaken.1)
    · have hnone (heof : t.kind ≠ .eof) : (if p t then some t else none) = none :=
        if_neg fun hp => htaken ⟨heof, hp⟩
      have hblame (known : List String) : (Rule.peek 0 >>= fail cause : Rule Token)
          ⟨s.ending, known⟩ (s.tokens.drop k) = .error (.parse ⟨cause, t⟩) :=
        bind_ok (peek_of_look (n := 0) ht)
      rw [bind_ok (accept?_of_look_leave ht hnone), bind_ok (accept?_of_look_leave ht hnone)]
      dsimp only
      rw [bind_error (hblame known), bind_error (hblame known')]
      exact .parse (Nat.le_refl k) (Scan.delivered_of_look ht hk) hcause

theorem expect (kind : Token.Kind) : Eases s more (expect kind) := by
  rw [← bind_pure (Rule.expect kind)]
  exact taken (p := fun t => t.kind = kind) rfl nofun fun _ ht =>
    .ok (Nat.le_succ _) (List.getElem?_eq_some_iff.1 ht).1

theorem text : Eases s more text := by
  rw [← bind_pure Rule.text]
  exact taken (p := fun t => t.kind = .string ∨ t.kind = .identifier) rfl nofun fun _ ht =>
    .ok (Nat.le_succ _) (List.getElem?_eq_some_iff.1 ht).1

/-! ## Combinators -/

theorem behind (kind : Token.Kind) (h : Eases s more rule) : Eases s more (behind kind rule) :=
  (accept kind).bind fun _ => .ite (h.map some) (.pure none)

theorem upTo (kind : Token.Kind) (h : Eases s more rule) : Eases s more (upTo kind rule) :=
  h.bind fun x => (expect kind).map fun _ => x

theorem orSymbol (kind : Token.Kind) (x : β) (h : Eases s more rule) :
    Eases s more (orSymbol kind x rule) :=
  (accept kind).bind fun _ => .ite (.pure x) h

theorem orVariant (h : Eases s more rule) : Eases s more (orVariant rule) :=
  (h.map some).orSymbol .question none

theorem orElse {first second : Rule (Option β)} (h : Eases s more first)
    (h' : Eases s more second) : Eases s more (orElse first second) := by
  refine h.bind fun x => ?_
  cases x with
  | none => exact h'
  | some x => exact .pure (some x)

theorem otherwise {first : Rule (Option β)} {second : Rule β} (h : Eases s more first)
    (h' : Eases s more second) : Eases s more (otherwise first second) := by
  refine h.bind fun x => ?_
  cases x with
  | none => exact h'
  | some x => exact .pure x

theorem phrase {κ : Type} {f : Token → Option κ} {argument : κ → Rule β}
    (h : ∀ c, Eases s more (argument c)) : Eases s more (phrase f argument) := by
  refine (accept? f).bind fun x => ?_
  cases x with
  | none => exact .pure none
  | some c => exact (h c).map some

theorem many {rule : Rule (Option β)} {value : α → β} [Phrase α] {follow stop : List Token → Prop}
    (hoffers : Offers rule value follow stop) (h : Eases s more rule) :
    Eases s more (many rule) := by
  intro known known' hadds k hk
  -- By the number of tokens that are left: each tree takes at least one.
  induction hn : (s.tokens.drop k).length using Nat.strongRecOn generalizing k known with
  | ind m ih =>
    subst hn
    rw [many_eq fun hx => hoffers.length_lt hx, many_eq fun hx => hoffers.length_lt hx]
    refine (h known known' hadds k hk).bind (fun {x j} hr hj => ?_) fun {x j} hr hj => ?_
    · cases x with
      | none => exact .ok (Nat.le_refl j) hj
      | some x =>
        have hmore := ih _ (hoffers.length_lt hr) known hadds j hj rfl
        exact hmore.bind (fun _ hi => .ok (Nat.le_refl _) hi) fun _ hi => .ok (Nat.le_refl _) hi
    · cases x with
      | none => exact .ok (Nat.le_refl j) hj
      | some x =>
        have hmore := ih _ (hoffers.length_lt hr) known' hadds.again j hj rfl
        exact hmore.onward.bind fun _ _ hi => .ok (Nat.le_refl _) hi

theorem commaSeparated {value : α → β} [Phrase α] (hreads : Reads rule value (Clear []))
    (h : Eases s more rule) : Eases s more (commaSeparated rule) := by
  have hcomma := Offers.behind (by decide : Token.Kind.comma ≠ .eof) hreads
  exact h.bind fun x => ((h.behind .comma).many hcomma).map (x :: ·)

end Eases

end Cnd.Document
