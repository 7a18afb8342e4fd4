import Cnd.Proofs.Queue.Cursor
import Cnd.Token.Match

/-!
# Matching takes the front token or leaves no trace

A parser sees a queue only through what its requests come back with. Two queues are
indistinguishable if nobody who works on them can tell which one it is, whatever is asked and
however the questions depend on the answers (`Indistinguishable`). They may well differ inside: a
look at the front token moves it from the stream into the buffer.

All that can be seen of a queue over a stream with an end token is how many tokens were taken
(`Stands`): every request is answered by the content of the stream from there on
(`Request.comes_run`). So a check, and a match that fails, change nothing (`matching_atomic`).
-/

namespace Cnd.TokenQueue

/-! ## Requests -/

/-- What can be asked of a queue, and of a parser over it. -/
inductive Request where
  | peek (n : Int)
  | next
  | isEof
  | position
  | check (p : Token.Pattern)
  | checkAny (ps : List Token.Pattern)
  | accept (p : Token.Pattern)
  | expect (p : Token.Pattern)
  | blame (cause : ParseError.Cause)
deriving DecidableEq, Repr

/-- What a request comes back with. -/
inductive Answer where
  | token (t : Token)
  | flag (b : Bool)
  | count (n : Nat)
  | found (t : Option Token)
  | fault (e : ParseError)
deriving DecidableEq, Repr

namespace Answer

/-- The answer to a demand for a token. -/
def ofExcept : Except ParseError Token → Answer
  | .ok t => token t
  | .error e => fault e

end Answer

def Request.run : Request → Action Answer
  | peek n => .token <$> TokenQueue.peek n
  | next => .token <$> TokenQueue.next
  | isEof => .flag <$> TokenQueue.isEof
  | position => fun q => (.ok (.count q.position), q)
  | check p => .flag <$> TokenQueue.check p
  | checkAny ps => .flag <$> TokenQueue.checkAny ps
  | accept p => .found <$> TokenQueue.accept p
  | expect p => .ofExcept <$> TokenQueue.expect p
  | blame cause => .fault <$> TokenQueue.blame cause

/-- The queue behind some requests, whichever of them fail. -/
def afterRequests (q : TokenQueue) (rs : List Request) : TokenQueue :=
  rs.foldl (fun q r => (r.run q).2) q

/-- Someone who works on a queue: done, or with a request and a way to go on from its outcome. -/
inductive Client where
  | done
  | ask (r : Request) (goOn : Except Failure Answer → Client)

/-- All that a client gets to see of a queue. -/
def Client.outcomes : Client → TokenQueue → List (Except Failure Answer)
  | done, _ => []
  | ask r goOn, q => (r.run q).1 :: (goOn (r.run q).1).outcomes (r.run q).2

/-- No client can tell the queues apart. How many tokens were pulled is none of its business. -/
def Indistinguishable (q q' : TokenQueue) : Prop := ∀ c : Client, c.outcomes q = c.outcomes q'

/-! ## Where a queue stands -/

/-- The queue is behind `taken` tokens of the stream. -/
def Stands (s : TokenStream) (taken : Nat) (q : TokenQueue) : Prop :=
  ∃ asked, Sound s ⟨q, taken, asked⟩

/-- From behind `taken` tokens the action comes to `r`, and to a queue behind `taken'` tokens. -/
def Comes {α : Type} (s : TokenStream) (taken : Nat) (x : Action α) (r : Except Failure α)
    (taken' : Nat) : Prop :=
  ∀ q, Stands s taken q → (x q).1 = r ∧ Stands s taken' (x q).2

theorem Stands.position {s : TokenStream} {taken : Nat} {q : TokenQueue} (h : Stands s taken q) :
    q.position = taken := by
  obtain ⟨asked, hs⟩ := h
  exact hs.position

theorem stands_start (s : TokenStream) : Stands s 0 (.ofStream s) := ⟨0, sound_start s⟩

section Comes

variable {α β : Type} {s : TokenStream} {taken taken' taken'' : Nat} {final t : Token}
  {x : Action α} {r : Except Failure α}

theorem map_run (f : α → β) (x : Action α) (q : TokenQueue) :
    (f <$> x) q = ((x q).1.map f, (x q).2) := by
  show ExceptT.map f x q = _
  simp only [ExceptT.map, ExceptT.mk, bind, StateT.bind]
  rcases x q with ⟨_ | a, q'⟩ <;> rfl

theorem bind_run (x : Action α) (f : α → Action β) (q : TokenQueue) :
    (x >>= f) q = match x q with
      | (.ok a, q') => f a q'
      | (.error e, q') => (.error e, q') := by
  show ExceptT.bind x f q = _
  simp only [ExceptT.bind, ExceptT.mk, ExceptT.bindCont, bind, StateT.bind]
  rcases x q with ⟨_ | a, q'⟩ <;> rfl

theorem Comes.pure (a : α) : Comes s taken (pure a) (.ok a) taken := by
  intro q hq
  exact ⟨rfl, hq⟩

theorem Comes.map (h : Comes s taken x r taken') (f : α → β) :
    Comes s taken (f <$> x) (r.map f) taken' := by
  intro q hq
  obtain ⟨hr, hstands⟩ := h q hq
  rw [map_run, hr]
  exact ⟨rfl, hstands⟩

theorem Comes.bind {a : α} {r : Except Failure β} {f : α → Action β}
    (h : Comes s taken x (.ok a) taken') (hf : Comes s taken' (f a) r taken'') :
    Comes s taken (x >>= f) r taken'' := by
  intro q hq
  obtain ⟨hr, hstands⟩ := h q hq
  rw [bind_run]
  rcases hx : x q with ⟨o, q'⟩
  rw [hx] at hr hstands
  subst hr
  exact hf q' hstands

/-! ## Calls -/

theorem kind_of_final? (hfinal : s.final? = some final) : final.kind = .eof := by
  simpa using List.find?_some hfinal

/-- A stream with an end token raises no error in front of it. -/
theorem Stands.not_scan {q : TokenQueue} (hfinal : s.final? = some final)
    (hq : Stands s taken q) (c : Call) (e : ScanError) : (c.run q).1 ≠ .error (.scan e) := by
  obtain ⟨asked, hs⟩ := hq
  intro herror
  have hraised := ((hs.raised c e).1 herror).1
  rw [TokenStream.error?, if_neg (by simp [hfinal])] at hraised
  cases hraised

/-- The reply to a call tells the outcome of the action that the call stands for. -/
theorem map_injective {ε γ δ : Type} {f : γ → δ} (hf : Function.Injective f) :
    Function.Injective (Except.map (ε := ε) f) := by
  intro o o' h
  rcases o with e | c <;> rcases o' with e' | c' <;> simp only [Except.map] at h
  · rw [Except.error.inj h]
  · cases h
  · cases h
  · rw [hf (Except.ok.inj h)]

theorem token_injective : Function.Injective Reply.token := fun _ _ => Reply.token.inj

theorem flag_injective : Function.Injective Reply.flag := fun _ _ => Reply.flag.inj

theorem comes_peek_of_neg {n : Int} (hn : n < 0) :
    Comes s taken (peek n) (.error (.negativeLookahead n)) taken := by
  intro q hq
  simp only [peek, if_pos hn]
  exact ⟨trivial, hq⟩

/-- A look ahead shows the content, and behind it the end token. -/
theorem comes_peek (hfinal : s.final? = some final) {n : Int} (hn : ¬ n < 0) :
    Comes s taken (peek n) (.ok (s.content[taken + n.toNat]?.getD final)) taken := by
  intro q hq
  have hfree := hq.not_scan hfinal (.peek n)
  obtain ⟨asked, hs⟩ := hq
  have hrefines := hs.refines (.peek n)
  have hanswered := hrefines.answered hfree
  rw [Call.Answered, if_neg hn] at hanswered
  obtain ⟨t, hreply, hshown⟩ := hanswered
  have ht : s.content[taken + n.toNat]?.getD final = t := by
    rcases hshown with hget | ⟨hlength, hend⟩
    · rw [hget]
      rfl
    · rw [List.getElem?_eq_none hlength]
      exact (hrefines.settled t hreply hend).1 final hfinal
  rw [ht]
  exact ⟨map_injective token_injective hreply, _, hs.call (.peek n)⟩

theorem comes_front (hfinal : s.final? = some final) :
    Comes s taken (peek 0) (.ok (s.content[taken]?.getD final)) taken :=
  comes_peek hfinal (Int.lt_irrefl 0)

theorem comes_isEof (hfinal : s.final? = some final) :
    Comes s taken isEof (.ok s.content[taken]?.isNone) taken := by
  intro q hq
  have hfree := hq.not_scan hfinal .isEof
  obtain ⟨asked, hs⟩ := hq
  have hreply := (hs.refines .isEof).answered hfree
  have hend : decide (taken = s.content.length) = s.content[taken]?.isNone := by
    have hle : taken ≤ s.content.length := hs.taken_le
    rw [Bool.eq_iff_iff, decide_eq_true_iff, Option.isNone_iff_eq_none, List.getElem?_eq_none_iff]
    omega
  rw [← hend]
  exact ⟨map_injective flag_injective hreply, _, hs.call .isEof⟩

/-- The front token is taken. -/
theorem comes_next (hfinal : s.final? = some final) (ht : s.content[taken]? = some t) :
    Comes s taken next (.ok t) (taken + 1) := by
  intro q hq
  have hfree := hq.not_scan hfinal .next
  obtain ⟨asked, hs⟩ := hq
  have hmoved : Stands s _ (Call.next.run q).2 := ⟨_, hs.call .next⟩
  rcases (hs.refines .next).answered hfree with ⟨u, hu, hreply⟩ | ⟨hend, -⟩
  · obtain rfl : t = u := Option.some.inj (ht.symm.trans hu)
    simp only [hreply, Except.isOk, Except.toBool, and_self, if_true] at hmoved
    exact ⟨map_injective token_injective hreply, hmoved⟩
  · have hnone : s.content[taken]? = none := List.getElem?_eq_none (Nat.le_of_eq hend.symm)
    rw [hnone] at ht
    cases ht

/-- Nothing is taken at the end. -/
theorem comes_next_end (hfinal : s.final? = some final) (ht : s.content[taken]? = none) :
    Comes s taken next (.error .pastEnd) taken := by
  intro q hq
  have hfree := hq.not_scan hfinal .next
  obtain ⟨asked, hs⟩ := hq
  have hmoved : Stands s _ (Call.next.run q).2 := ⟨_, hs.call .next⟩
  rcases (hs.refines .next).answered hfree with ⟨u, hu, -⟩ | ⟨-, hreply⟩
  · rw [ht] at hu
    cases hu
  · simp only [hreply, Except.isOk, Except.toBool, Bool.false_eq_true, and_false, if_false]
      at hmoved
    exact ⟨map_injective token_injective hreply, hmoved⟩

/-! ## Matching -/

/-- Whether a pattern matches is a matter of the front token alone; at the end none does. -/
theorem comes_check (hfinal : s.final? = some final) (p : Token.Pattern) :
    Comes s taken (check p) (.ok (s.content[taken]?.any p.accepts)) taken := by
  refine (comes_isEof hfinal).bind ?_
  cases hfront : s.content[taken]? with
  | none => exact .pure false
  | some t =>
    have hpeek := @comes_front s taken final hfinal
    rw [hfront, Option.getD_some] at hpeek
    exact hpeek.bind (.pure _)

theorem comes_checkAny (hfinal : s.final? = some final) (ps : List Token.Pattern) :
    Comes s taken (checkAny ps) (.ok (ps.any fun p => s.content[taken]?.any p.accepts)) taken := by
  induction ps with
  | nil => exact .pure false
  | cons p ps ih =>
    refine (comes_check hfinal p).bind ?_
    rw [List.any_cons]
    cases s.content[taken]?.any p.accepts with
    | true => exact .pure true
    | false => exact ih

/-- The front token stands for the end where there is none. -/
theorem comes_blame (hfinal : s.final? = some final) (cause : ParseError.Cause) :
    Comes s taken (blame cause) (.ok ⟨cause, s.content[taken]?.getD final⟩) taken :=
  (comes_front hfinal).bind (.pure _)

section Match

variable {p : Token.Pattern}

theorem comes_check_front (hfinal : s.final? = some final) (ht : s.content[taken]? = some t)
    (hp : p.accepts t) : Comes s taken (check p) (.ok true) taken := by
  have hcheck : Comes s taken (check p) (.ok (s.content[taken]?.any p.accepts)) taken :=
    comes_check hfinal p
  rwa [ht, Option.any_some, hp] at hcheck

theorem comes_accept (hfinal : s.final? = some final) (ht : s.content[taken]? = some t)
    (hp : p.accepts t) : Comes s taken (accept p) (.ok (some t)) (taken + 1) :=
  (comes_check_front hfinal ht hp).bind ((comes_next hfinal ht).bind (.pure _))

theorem comes_expect (hfinal : s.final? = some final) (ht : s.content[taken]? = some t)
    (hp : p.accepts t) : Comes s taken (expect p) (.ok (.ok t)) (taken + 1) :=
  (comes_check_front hfinal ht hp).bind ((comes_next hfinal ht).bind (.pure _))

theorem comes_accept_none (hfinal : s.final? = some final)
    (hp : s.content[taken]?.any p.accepts = false) :
    Comes s taken (accept p) (.ok none) taken := by
  refine (comes_check hfinal p).bind ?_
  rw [hp]
  exact .pure none

theorem comes_expect_error (hfinal : s.final? = some final)
    (hp : s.content[taken]?.any p.accepts = false) :
    Comes s taken (expect p)
      (.ok (.error ⟨.expected p, s.content[taken]?.getD final⟩)) taken := by
  refine (comes_check hfinal p).bind ?_
  rw [hp]
  exact (comes_blame hfinal _).bind (.pure _)

end Match

/-! ## What can be seen of a queue -/

/-- A pattern matches the front token, which is there then, or it does not. -/
theorem matches_cases (front : Option Token) (p : Token.Pattern) :
    (∃ t, front = some t ∧ p.accepts t) ∨ front.any p.accepts = false := by
  cases front with
  | none => exact .inr rfl
  | some t =>
    cases hp : p.accepts t with
    | true => exact .inl ⟨t, rfl, hp⟩
    | false => exact .inr hp

/-- Where a queue stands decides what any request comes back with, and where the queue stands
then. -/
theorem Request.comes_run (hfinal : s.final? = some final) (taken : Nat) (r : Request) :
    ∃ o taken', Comes s taken r.run o taken' := by
  cases r with
  | peek n =>
    by_cases hn : n < 0
    · exact ⟨_, _, (comes_peek_of_neg hn).map _⟩
    · exact ⟨_, _, (comes_peek hfinal hn).map _⟩
  | next =>
    cases hfront : s.content[taken]? with
    | none => exact ⟨_, _, (comes_next_end hfinal hfront).map _⟩
    | some t => exact ⟨_, _, (comes_next hfinal hfront).map _⟩
  | isEof => exact ⟨_, _, (comes_isEof hfinal).map _⟩
  | position =>
    refine ⟨.ok (.count taken), taken, fun q hq => ⟨?_, hq⟩⟩
    rw [← hq.position]
    rfl
  | check p => exact ⟨_, _, (comes_check hfinal p).map _⟩
  | checkAny ps => exact ⟨_, _, (comes_checkAny hfinal ps).map _⟩
  | accept p =>
    rcases matches_cases s.content[taken]? p with ⟨t, ht, hp⟩ | hp
    · exact ⟨_, _, (comes_accept hfinal ht hp).map _⟩
    · exact ⟨_, _, (comes_accept_none hfinal hp).map _⟩
  | expect p =>
    rcases matches_cases s.content[taken]? p with ⟨t, ht, hp⟩ | hp
    · exact ⟨_, _, (comes_expect hfinal ht hp).map _⟩
    · exact ⟨_, _, (comes_expect_error hfinal hp).map _⟩
  | blame cause => exact ⟨_, _, (comes_blame hfinal cause).map _⟩

/-- Queues that stand at the same place cannot be told apart. -/
theorem indistinguishable_of_stands {q q' : TokenQueue} (hfinal : s.final? = some final)
    (hq : Stands s taken q) (hq' : Stands s taken q') : Indistinguishable q q' := by
  intro c
  induction c generalizing taken q q' with
  | done => rfl
  | ask r goOn ih =>
    obtain ⟨o, taken', hcomes⟩ := r.comes_run hfinal taken
    obtain ⟨ho, hstands⟩ := hcomes q hq
    obtain ⟨ho', hstands'⟩ := hcomes q' hq'
    rw [Client.outcomes, Client.outcomes, ho, ho', ih o hstands hstands']

theorem exists_stands {q : TokenQueue} (hfinal : s.final? = some final) (hq : Stands s taken q)
    (rs : List Request) : ∃ taken', Stands s taken' (afterRequests q rs) := by
  induction rs generalizing taken q with
  | nil => exact ⟨taken, hq⟩
  | cons r rs ih =>
    obtain ⟨o, taken', hcomes⟩ := r.comes_run hfinal taken
    exact ih (hcomes q hq).2

end Comes

/-! ## All or nothing -/

/-- The front token is there, and the pattern matches it. -/
def Offers (q : TokenQueue) (p : Token.Pattern) : Prop :=
  (isEof q).1 = .ok false ∧ ∃ t, (peek 0 q).1 = .ok t ∧ p.accepts t

/-- What matching comes to on a queue. -/
structure Atomic (q : TokenQueue) (p : Token.Pattern) (ps : List Token.Pattern) : Prop where
  /-- A check tells whether the front token matches, and leaves no trace. -/
  check : ∃ b, (check p q).1 = .ok b ∧ (b = true ↔ q.Offers p) ∧
    Indistinguishable (TokenQueue.check p q).2 q
  checkAny : ∃ b, (checkAny ps q).1 = .ok b ∧ (b = true ↔ ∃ p ∈ ps, q.Offers p) ∧
    Indistinguishable (TokenQueue.checkAny ps q).2 q
  /-- A token that matches is taken, as `next` takes it. -/
  taken : (TokenQueue.check p q).1 = .ok true → ∃ t, (peek 0 q).1 = .ok t ∧
    (accept p q).1 = .ok (some t) ∧ (expect p q).1 = .ok (.ok t) ∧ (next q).1 = .ok t ∧
    (accept p q).2.position = q.position + 1 ∧ (expect p q).2.position = q.position + 1 ∧
    Indistinguishable (accept p q).2 (next q).2 ∧ Indistinguishable (expect p q).2 (next q).2
  /-- A token that does not match stays in front, and is the culprit if it had to match. -/
  left : (TokenQueue.check p q).1 = .ok false → ∃ t, (peek 0 q).1 = .ok t ∧
    (accept p q).1 = .ok none ∧ Indistinguishable (accept p q).2 q ∧
    (expect p q).1 = .ok (.error ⟨.expected p, t⟩) ∧ Indistinguishable (expect p q).2 q ∧
    (peek 0 (expect p q).2).1 = .ok t
  /-- The end matches no pattern, not even that of an end token. -/
  atEnd : (isEof q).1 = .ok true → (TokenQueue.check p q).1 = .ok false ∧
    (TokenQueue.checkAny ps q).1 = .ok false ∧ (accept p q).1 = .ok none ∧
    ∃ t, t.kind = .eof ∧ (expect p q).1 = .ok (.error ⟨.expected p, t⟩)

section Atomic

variable {s : TokenStream} {taken : Nat} {final : Token} {q : TokenQueue}

theorem Stands.offers_iff (hfinal : s.final? = some final) (hq : Stands s taken q)
    (p : Token.Pattern) : q.Offers p ↔ s.content[taken]?.any p.accepts = true := by
  have hend := (comes_isEof hfinal q hq).1
  have hpeek := (comes_front hfinal q hq).1
  rw [Offers, hend, hpeek]
  cases hfront : s.content[taken]? with
  | none => simp
  | some t => simp

theorem Stands.atomic (hfinal : s.final? = some final) (hq : Stands s taken q)
    (p : Token.Pattern) (ps : List Token.Pattern) : Atomic q p ps := by
  have hpeek := (comes_front hfinal q hq).1
  obtain ⟨hcheck, hchecked⟩ := comes_check hfinal p q hq
  obtain ⟨hany, hanyed⟩ := comes_checkAny hfinal ps q hq
  constructor
  · refine ⟨_, hcheck, (hq.offers_iff hfinal p).symm, ?_⟩
    exact indistinguishable_of_stands hfinal hchecked hq
  · refine ⟨_, hany, ?_, indistinguishable_of_stands hfinal hanyed hq⟩
    simp only [List.any_eq_true, hq.offers_iff hfinal]
  · intro htrue
    rw [hcheck] at htrue
    obtain ⟨t, ht, hp⟩ := (matches_cases s.content[taken]? p).resolve_right
      (by simp [Except.ok.inj htrue])
    rw [ht, Option.getD_some] at hpeek
    obtain ⟨haccept, haccepted⟩ := comes_accept hfinal ht hp q hq
    obtain ⟨hexpect, hexpected⟩ := comes_expect hfinal ht hp q hq
    obtain ⟨hnext, hmoved⟩ := comes_next hfinal ht q hq
    refine ⟨t, hpeek, haccept, hexpect, hnext, ?_, ?_, ?_, ?_⟩
    · rw [haccepted.position, hq.position]
    · rw [hexpected.position, hq.position]
    · exact indistinguishable_of_stands hfinal haccepted hmoved
    · exact indistinguishable_of_stands hfinal hexpected hmoved
  · intro hfalse
    rw [hcheck] at hfalse
    have hp := Except.ok.inj hfalse
    obtain ⟨haccept, haccepted⟩ := comes_accept_none hfinal hp q hq
    obtain ⟨hexpect, hexpected⟩ := comes_expect_error hfinal hp q hq
    have hstill := (comes_front hfinal _ hexpected).1
    exact ⟨_, hpeek, haccept, indistinguishable_of_stands hfinal haccepted hq, hexpect,
      indistinguishable_of_stands hfinal hexpected hq, hstill⟩
  · intro hend
    rw [(comes_isEof hfinal q hq).1] at hend
    have hnone := Option.isNone_iff_eq_none.1 (Except.ok.inj hend)
    have hp : s.content[taken]?.any p.accepts = false := by rw [hnone]; rfl
    have hps : (ps.any fun p => s.content[taken]?.any p.accepts) = false := by simp [hnone]
    rw [hcheck, hany, hp, hps, (comes_accept_none hfinal hp q hq).1,
      (comes_expect_error hfinal hp q hq).1, hnone]
    exact ⟨rfl, rfl, rfl, final, kind_of_final? hfinal, rfl⟩

/-- **Matching takes the front token or leaves no trace.** Whatever was asked of a queue over a
stream with an end token: a check tells whether the front token matches and can be noticed by
nobody, and a match takes the front token, as `next` does, exactly if the check says so. -/
theorem matching_atomic (s : TokenStream) (hend : ∃ t ∈ s.tokens, t.kind = .eof)
    (past : List Request) (p : Token.Pattern) (ps : List Token.Pattern) :
    Atomic (afterRequests (.ofStream s) past) p ps := by
  obtain ⟨final, hfinal⟩ : ∃ final, s.final? = some final := by
    rw [← Option.isSome_iff_exists, TokenStream.final?, List.find?_isSome]
    simpa using hend
  obtain ⟨taken, hstands⟩ := exists_stands hfinal (stands_start s) past
  exact hstands.atomic hfinal p ps

/-- A word and the end behind it, which was looked at before the word is matched in another case. -/
theorem matching_atomic_word :
    let s : TokenStream := ⟨[⟨.identifier, some "MIXIN", .start⟩, .atEnd ⟨1, 6, 5⟩], none⟩
    (∃ t ∈ s.tokens, t.kind = .eof) ∧
      Atomic (afterRequests (.ofStream s) [.peek 1]) ⟨.identifier, some "mixin", true⟩
        [⟨.eof, none, false⟩] := by
  intro s
  have hend : ∃ t ∈ s.tokens, t.kind = .eof := ⟨.atEnd ⟨1, 6, 5⟩, by simp [s], rfl⟩
  exact ⟨hend, matching_atomic s hend _ _ _⟩

end Atomic

end Cnd.TokenQueue
