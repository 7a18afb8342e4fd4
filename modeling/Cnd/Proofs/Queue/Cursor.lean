import Cnd.Proofs.Queue.Fill

/-!
# A queue is a list with a cursor

Whatever a queue is asked, it answers as a list with a cursor would: the list is the content of the
stream, and the cursor stands behind the tokens that were taken (`refines_list`). The one call that
meets the error of the stream is the exception. The stream is read no further than the calls look.

The invariant `Sound` says where the queue stands after any calls; each call fills the buffer and
then answers from it, and both steps keep the invariant.
-/

namespace Cnd.TokenQueue

/-! ## Calls -/

/-- What a queue can be asked. -/
inductive Call where
  | peek (n : Int)
  | next
  | isEof
deriving DecidableEq, Repr

inductive Reply where
  | token (t : Token)
  | flag (b : Bool)
deriving DecidableEq, Repr

namespace Call

def run : Call → Action Reply
  | peek n => fun q => (TokenQueue.peek n q).map (Except.map .token) id
  | next => fun q => (TokenQueue.next q).map (Except.map .token) id
  | isEof => fun q => (TokenQueue.isEof q).map (Except.map .flag) id

/-- The number of tokens that must be in the buffer, or the end be known, for an answer. -/
def count : Call → Nat
  | peek n => (n + 1).toNat
  | next => 1
  | isEof => 1

/-- The number of tokens that a call looks at, with those that were taken before it. -/
def reach (taken : Nat) (c : Call) : Nat := if c.count = 0 then 0 else taken + c.count

/-- The answer from a buffer that is filled. -/
def finish : Call → Action Reply
  | peek n => fun q =>
    if n < 0 then (.error (.negativeLookahead n), q)
    else (.ok (.token (q.buffer[n.toNat]?.getD (q.final.getD (makeFinal q.buffer)))), q)
  | next => fun q =>
    match q.buffer with
    | [] => (.error .pastEnd, q)
    | t :: rest => (.ok (.token t), { q with buffer := rest, position := q.position + 1 })
  | isEof => fun q => (.ok (.flag q.buffer.isEmpty), q)

section Finish

variable {n : Int} {q : TokenQueue} {t : Token} {rest : List Token}

theorem finish_peek_of_neg (h : n < 0) :
    (peek n).finish q = (.error (.negativeLookahead n), q) := if_pos h

theorem finish_peek (h : ¬ n < 0) : (peek n).finish q =
    (.ok (.token (q.buffer[n.toNat]?.getD (q.final.getD (makeFinal q.buffer)))), q) := if_neg h

theorem finish_next_nil (h : q.buffer = []) : next.finish q = (.error .pastEnd, q) := by
  simp only [finish, h]

theorem finish_next_cons (h : q.buffer = t :: rest) : next.finish q =
    (.ok (.token t), { q with buffer := rest, position := q.position + 1 }) := by
  simp only [finish, h]

theorem finish_ne_scan (c : Call) (q : TokenQueue) (e : ScanError) :
    (c.finish q).1 ≠ .error (.scan e) := by
  cases c with
  | peek n =>
    by_cases hn : n < 0
    · rw [finish_peek_of_neg hn]
      nofun
    · rw [finish_peek hn]
      nofun
  | next =>
    cases hbuffer : q.buffer with
    | nil =>
      rw [finish_next_nil hbuffer]
      nofun
    | cons t rest =>
      rw [finish_next_cons hbuffer]
      nofun
  | isEof => nofun

end Finish

/-- The answer that the content gives behind the tokens that were taken. -/
def Answered (content : List Token) (taken : Nat) : Call → Except Failure Reply → Prop
  | peek n, r =>
    if n < 0 then r = .error (.negativeLookahead n)
    else ∃ t, r = .ok (.token t) ∧ (content[taken + n.toNat]? = some t ∨
      content.length ≤ taken + n.toNat ∧ t.kind = .eof)
  | next, r =>
    (∃ t, content[taken]? = some t ∧ r = .ok (.token t)) ∨
      taken = content.length ∧ r = .error .pastEnd
  | isEof, r => r = .ok (.flag (taken = content.length))

/-- Every call fills the buffer and then answers from it. -/
theorem run_eq (c : Call) (q : TokenQueue) :
    c.run q = match q.fill c.count with
      | (some e, q') => (.error (.scan e), q')
      | (none, q') => c.finish q' := by
  cases c with
  | peek n =>
    simp only [run, TokenQueue.peek, count, finish]
    by_cases hn : n < 0
    · -- Nothing is filled for an answer that is refused.
      have hfill : q.fill (n + 1).toNat = (none, q) := fill_of_not fun h => by omega
      simp [hfill, hn, Except.map]
    · have hcount : (n + 1).toNat = n.toNat + 1 := by omega
      rw [hcount, if_neg hn]
      rcases q.fill (n.toNat + 1) with ⟨_ | e, q'⟩
      · simp [hn, Except.map]
      · rfl
  | next =>
    simp only [run, TokenQueue.next, count, finish]
    rcases q.fill 1 with ⟨_ | e, ⟨_ | ⟨t, rest⟩, final, position, pulled, stream⟩⟩ <;> rfl
  | isEof =>
    simp only [run, TokenQueue.isEof, count, finish]
    rcases q.fill 1 with ⟨_ | e, q'⟩ <;> rfl

/-- A call raises the error that stopped the filling, or answers from a buffer that is long enough
or behind which nothing comes. -/
theorem run_cases (c : Call) (q : TokenQueue) :
    (∃ e q', c.run q = (.error (.scan e), q') ∧ Filled c.count q (some e) q') ∨
      ∃ q', c.run q = c.finish q' ∧ Filled c.count q none q' ∧
        (c.count ≤ q'.buffer.length ∨ q'.final.isSome) := by
  have hq := filled_fill c.count q
  rw [c.run_eq]
  generalize q.fill c.count = filled at hq
  obtain ⟨_ | e, q'⟩ := filled
  · have hout := hq.outcome.resolve_right (by simp)
    exact .inr ⟨q', rfl, hq, hout.2.2⟩
  · exact .inl ⟨e, q', rfl, hq⟩

end Call

/-- A queue after some calls, with the number of tokens that were taken and the number of tokens
that the calls looked at. -/
structure History where
  queue : TokenQueue
  taken : Nat
  asked : Nat

namespace History

/-- A queue over a stream of which nothing was asked. -/
def start (s : TokenStream) : History := ⟨.ofStream s, 0, 0⟩

/-- One more call, whether it fails or not. -/
def call (h : History) (c : Call) : History where
  queue := (c.run h.queue).2
  taken := if c = .next ∧ (c.run h.queue).1.isOk then h.taken + 1 else h.taken
  asked := max h.asked (c.reach h.taken)

def calls (h : History) (cs : List Call) : History := cs.foldl call h

end History

/-! ## The invariant -/

/-- Where a queue stands over the stream that it began with. -/
structure Sound (s : TokenStream) (h : History) : Prop where
  position : h.queue.position = h.taken
  taken_le : h.taken ≤ s.content.length
  ahead : h.queue.ahead = s.content.drop h.taken
  pulled : h.queue.pulled = min s.extent h.asked
  unread : h.queue.pulled + h.queue.unread = s.extent
  stream : h.queue.stream.tokens = s.tokens.drop h.queue.pulled
  pulled_of_final : h.queue.final = none →
    h.queue.pulled = h.taken + h.queue.buffer.length ∧ h.queue.stream.final? = s.final?
  final : ∀ t ∈ h.queue.final, t.kind = .eof ∧ ∀ u ∈ s.final?, u = t
  /-- The error of the stream is raised by the first call that looks behind the content. -/
  pending : h.queue.pending? = if s.content.length < h.asked then none else s.error?

theorem sound_start (s : TokenStream) : Sound s (.start s) where
  position := rfl
  taken_le := Nat.zero_le _
  ahead := by simp [History.start, ofStream, ahead]
  pulled := by simp [History.start, ofStream]
  unread := by simp [History.start, ofStream, unread]
  stream := rfl
  pulled_of_final _ := ⟨rfl, rfl⟩
  final := nofun
  pending := by simp [History.start, ofStream, pending?]

section Step

variable {s : TokenStream} {h : History} {q : TokenQueue} {c : Call} {e : Option ScanError}

/-- What is ahead is in the buffer once the end is known. -/
theorem ahead_of_final (hfinal : q.final.isSome) : q.ahead = q.buffer := by
  rw [ahead, if_neg (by simpa [Option.isSome_iff_ne_none] using hfinal), List.append_nil]

theorem length_buffer_le (q : TokenQueue) : q.buffer.length ≤ q.ahead.length := by
  rw [ahead, List.length_append]
  omega

theorem Sound.length_ahead (hs : Sound s h) :
    h.queue.ahead.length = s.content.length - h.taken := by
  rw [hs.ahead, List.length_drop]

theorem pending?_of_final (hfinal : q.final.isSome) : q.pending? = none := by
  rw [pending?, if_neg (by simpa [Option.isSome_iff_ne_none] using hfinal)]

/-- Whether a call looks behind the content, seen from what is ahead. -/
theorem Sound.reach_le_iff (hs : Sound s h) (c : Call) :
    c.reach h.taken ≤ s.content.length ↔ c.count ≤ h.queue.ahead.length := by
  have := hs.taken_le
  rw [hs.length_ahead, Call.reach]
  split <;> omega

/-- Behind a call that looks behind the content nothing is pending. -/
theorem Sound.pending_filled (hs : Sound s h) (hq : Filled c.count h.queue e q) :
    q.pending? = if s.content.length < max h.asked (c.reach h.taken) then none else s.error? := by
  have hreach := hs.reach_le_iff c
  have hpending := hs.pending
  rcases hq.outcome with ⟨-, hsame, henough⟩ | ⟨hraised, herror, hshort, hnone, -⟩
  · rw [hsame, hpending]
    by_cases hasked : s.content.length < h.asked
    · rw [if_pos hasked, if_pos (by omega)]
    by_cases hlooked : s.content.length < c.reach h.taken
    · -- There are too few tokens, so it is the end that is known.
      have hlength := length_buffer_le q
      rw [hq.ahead] at hlength
      have hfinal : q.final.isSome := henough.resolve_left (by omega)
      rw [← hpending, ← hsame, pending?_of_final hfinal, if_pos (by omega)]
    · rw [if_neg hasked, if_neg (by omega)]
  · rw [hnone, if_pos]
    omega

/-- The error is raised by the first call that looks behind the content, and by no other. -/
theorem Sound.raised_iff (hs : Sound s h) (hq : Filled c.count h.queue e q) {err : ScanError} :
    e = some err ↔ s.error? = some err ∧ h.asked ≤ s.content.length ∧
      s.content.length < c.reach h.taken := by
  have hreach := hs.reach_le_iff c
  have hpending := hs.pending
  constructor
  · rintro rfl
    rcases hq.outcome with ⟨hnone, -⟩ | ⟨-, herror, hshort, -⟩
    · cases hnone
    rw [herror] at hpending
    by_cases hasked : s.content.length < h.asked
    · rw [if_pos hasked] at hpending
      cases hpending
    · rw [if_neg hasked] at hpending
      exact ⟨hpending.symm, by omega, by omega⟩
  · rintro ⟨herror, hasked, hlooked⟩
    rw [if_neg (by omega), herror] at hpending
    rcases hq.outcome with ⟨-, hsame, henough⟩ | ⟨-, hraised, -⟩
    · have hlength := length_buffer_le q
      rw [hq.ahead] at hlength
      have hfinal : q.final.isSome := henough.resolve_left (by omega)
      rw [← hsame, pending?_of_final hfinal] at hpending
      cases hpending
    · rw [← hraised, hpending]

/-- Filling the buffer keeps the place of a queue over its stream. -/
theorem Sound.filled (hs : Sound s h) (hq : Filled c.count h.queue e q) :
    Sound s ⟨q, h.taken, max h.asked (c.reach h.taken)⟩ := by
  have hreach : c.reach h.taken = if c.count = 0 then 0 else h.taken + c.count := rfl
  have hpulled := hq.pulled
  have hunread := hq.unread
  have hpulled₀ := hs.pulled
  have hunread₀ := hs.unread
  constructor
  · exact hq.position.trans hs.position
  · exact hs.taken_le
  · exact hq.ahead.trans hs.ahead
  · -- How far the stream is read says how long the buffer is, until the end is known.
    show q.pulled = min s.extent (max h.asked (c.reach h.taken))
    cases hfinal : h.queue.final with
    | none =>
      have hopen := (hs.pulled_of_final hfinal).1
      split at hreach <;> omega
    | some t =>
      have hdone : h.queue.unread = 0 := by simp [TokenQueue.unread, hfinal]
      omega
  · exact hunread.trans hs.unread
  · show q.stream.tokens = s.tokens.drop q.pulled
    have hsplit : q.pulled = h.queue.pulled + (q.pulled - h.queue.pulled) := by omega
    rw [hq.stream, hs.stream, List.drop_drop, ← hsplit]
  · intro hnone
    have hopen₀ : h.queue.final = none := by
      rcases hq.final with h | ⟨h, -⟩
      · rw [← h]
        exact hnone
      · exact h
    have hopen := hq.pulled_of_final hnone
    have hs₀ := hs.pulled_of_final hopen₀
    show q.pulled = h.taken + q.buffer.length ∧ _
    exact ⟨by omega, hopen.2.trans hs₀.2⟩
  · intro t ht
    rcases hq.final with hsame | ⟨hopen₀, u, hu, hkind, hlast⟩
    · exact hs.final t (hsame ▸ ht)
    · obtain rfl : u = t := by
        rw [hu] at ht
        exact Option.some.inj ht
      rw [(hs.pulled_of_final hopen₀).2] at hlast
      exact ⟨hkind, hlast⟩
  · exact hs.pending_filled hq

/-- The front token is taken out of the buffer. -/
theorem Sound.take {taken asked : Nat} {t : Token} {rest : List Token}
    (hs : Sound s ⟨q, taken, asked⟩) (hbuffer : q.buffer = t :: rest) :
    Sound s ⟨{ q with buffer := rest, position := q.position + 1 }, taken + 1, asked⟩ where
  position := congrArg (· + 1) hs.position
  taken_le := by
    have hlength := hs.length_ahead
    have hfront := length_buffer_le q
    rw [hbuffer, List.length_cons] at hfront
    show taken + 1 ≤ _
    simp only at hlength
    omega
  ahead := by
    have htail := congrArg List.tail hs.ahead
    simpa [TokenQueue.ahead, hbuffer] using htail
  pulled := hs.pulled
  unread := hs.unread
  stream := hs.stream
  pulled_of_final hnone := by
    have hopen := hs.pulled_of_final hnone
    simp only [hbuffer, List.length_cons] at hopen
    exact ⟨by simp only; omega, hopen.2⟩
  final := hs.final
  pending := hs.pending

/-- The answer keeps the place of the queue, up to the token that it takes. -/
theorem Sound.finish {taken asked : Nat} (hs : Sound s ⟨q, taken, asked⟩) (c : Call) :
    Sound s ⟨(c.finish q).2,
      if c = .next ∧ (c.finish q).1.isOk then taken + 1 else taken, asked⟩ := by
  cases c with
  | peek n =>
    rw [Call.finish, if_neg (by simp)]
    split <;> exact hs
  | isEof => simpa [Call.finish] using hs
  | next =>
    cases hbuffer : q.buffer with
    | nil => simpa [Call.finish, hbuffer, Except.isOk, Except.toBool] using hs
    | cons t rest =>
      simpa [Call.finish, hbuffer, Except.isOk, Except.toBool] using hs.take hbuffer

/-- Every call keeps the place of the queue over its stream. -/
theorem Sound.call (hs : Sound s h) (c : Call) : Sound s (h.call c) := by
  rw [History.call]
  rcases c.run_cases h.queue with ⟨e, q, hrun, hq⟩ | ⟨q, hrun, hq, -⟩
  · simpa [hrun, Except.isOk, Except.toBool] using hs.filled hq
  · rw [hrun]
    exact (hs.filled hq).finish c

/-- So does every sequence of calls, whichever of them fail. -/
theorem Sound.calls (hs : Sound s h) (cs : List Call) : Sound s (h.calls cs) := by
  induction cs generalizing h with
  | nil => exact hs
  | cons c cs ih => exact ih (hs.call c)

/-! ## Answers -/

theorem kind_of_mem_buffer {taken asked : Nat} {t : Token} (hs : Sound s ⟨q, taken, asked⟩)
    (ht : t ∈ q.buffer) : t.kind ≠ .eof := by
  have hahead : t ∈ q.ahead := List.mem_append_left _ ht
  rw [hs.ahead] at hahead
  simpa using List.all_eq_true.1 List.all_takeWhile t (List.mem_of_mem_drop hahead)

theorem Sound.getElem?_buffer {taken asked n : Nat} {t : Token}
    (hs : Sound s ⟨q, taken, asked⟩) (hget : q.buffer[n]? = some t) :
    s.content[taken + n]? = some t := by
  have hahead : q.ahead = s.content.drop taken := hs.ahead
  have hlt := (List.getElem?_eq_some_iff.1 hget).1
  rw [← List.getElem?_drop, ← hahead, TokenQueue.ahead, List.getElem?_append_left hlt, hget]

/-- Where the end is known, a buffer that is too short is followed by it. -/
theorem Sound.length_le_of_final {taken asked n : Nat} (hs : Sound s ⟨q, taken, asked⟩)
    (hfinal : q.final.isSome) (hlength : q.buffer.length ≤ n) : s.content.length ≤ taken + n := by
  have hahead : q.ahead.length = s.content.length - taken := hs.length_ahead
  rw [ahead_of_final hfinal] at hahead
  omega

/-- With a token in the buffer or the end known, an empty buffer means the end. -/
theorem Sound.buffer_eq_nil_iff {taken asked : Nat} (hs : Sound s ⟨q, taken, asked⟩)
    (henough : 1 ≤ q.buffer.length ∨ q.final.isSome) :
    q.buffer = [] ↔ taken = s.content.length := by
  have htaken : taken ≤ s.content.length := hs.taken_le
  rw [← List.length_eq_zero_iff]
  constructor
  · intro hempty
    have := hs.length_le_of_final (henough.resolve_left (by omega)) (Nat.le_of_eq hempty)
    omega
  · intro hend
    have hahead : q.ahead.length = s.content.length - taken := hs.length_ahead
    have := length_buffer_le q
    omega

/-- A buffer that is filled answers as the content does. -/
theorem Sound.answered {taken asked : Nat} (hs : Sound s ⟨q, taken, asked⟩)
    (henough : c.count ≤ q.buffer.length ∨ q.final.isSome) :
    c.Answered s.content taken (c.finish q).1 := by
  cases c with
  | peek n =>
    rw [Call.Answered]
    by_cases hn : n < 0
    · rw [if_pos hn, Call.finish_peek_of_neg hn]
    rw [if_neg hn, Call.finish_peek hn]
    refine ⟨_, rfl, ?_⟩
    cases hget : q.buffer[n.toNat]? with
    | some t => exact .inl (hs.getElem?_buffer hget)
    | none =>
      have hlength := List.getElem?_eq_none_iff.1 hget
      have hfinal : q.final.isSome := henough.resolve_left fun hcount => by
        rw [Call.count] at hcount
        omega
      obtain ⟨t, ht⟩ := Option.isSome_iff_exists.1 hfinal
      refine .inr ⟨hs.length_le_of_final hfinal hlength, ?_⟩
      rw [ht]
      exact (hs.final t ht).1
  | next =>
    have hempty := hs.buffer_eq_nil_iff henough
    cases hbuffer : q.buffer with
    | nil => exact .inr ⟨hempty.1 hbuffer, by rw [Call.finish_next_nil hbuffer]⟩
    | cons t rest =>
      have hfront : s.content[taken]? = some t :=
        hs.getElem?_buffer (n := 0) (by rw [hbuffer, List.getElem?_cons_zero])
      exact .inl ⟨t, hfront, by rw [Call.finish_next_cons hbuffer]⟩
  | isEof =>
    have hempty := hs.buffer_eq_nil_iff henough
    have hflag : q.buffer.isEmpty = decide (taken = s.content.length) := by
      rw [Bool.eq_iff_iff, List.isEmpty_iff, decide_eq_true_iff, hempty]
    rw [Call.Answered, ← hflag]
    rfl

/-- An end token is an answer only once the end is known, and then it is the one that is known. -/
theorem final_of_finish {taken asked : Nat} {t : Token} (hs : Sound s ⟨q, taken, asked⟩)
    (henough : c.count ≤ q.buffer.length ∨ q.final.isSome)
    (hreply : (c.finish q).1 = .ok (.token t)) (ht : t.kind = .eof) :
    (c.finish q).2.final = some t := by
  cases c with
  | peek n =>
    by_cases hn : n < 0
    · rw [Call.finish_peek_of_neg hn] at hreply
      cases hreply
    rw [Call.finish_peek hn] at hreply ⊢
    have hreply := Reply.token.inj (Except.ok.inj hreply)
    cases hget : q.buffer[n.toNat]? with
    | some u =>
      rw [hget] at hreply
      subst hreply
      exact absurd ht (kind_of_mem_buffer hs (List.mem_of_getElem? hget))
    | none =>
      have hlength := List.getElem?_eq_none_iff.1 hget
      have hfinal : q.final.isSome := henough.resolve_left fun hcount => by
        rw [Call.count] at hcount
        omega
      obtain ⟨u, hu⟩ := Option.isSome_iff_exists.1 hfinal
      rw [hget, hu] at hreply
      rw [hu, ← hreply]
      rfl
  | next =>
    cases hbuffer : q.buffer with
    | nil =>
      rw [Call.finish_next_nil hbuffer] at hreply
      cases hreply
    | cons u rest =>
      rw [Call.finish_next_cons hbuffer] at hreply
      cases hreply
      exact absurd ht (kind_of_mem_buffer hs (by rw [hbuffer]; exact List.mem_cons_self))
  | isEof => cases hreply

/-! ## Behind the end -/

/-- No answer from the buffer touches the stream. -/
theorem finish_stream (c : Call) (q : TokenQueue) (other : TokenStream) :
    c.finish { q with stream := other } =
      ((c.finish q).1, { (c.finish q).2 with stream := other }) := by
  cases c with
  | peek n =>
    simp only [Call.finish]
    split <;> rfl
  | isEof => rfl
  | next =>
    simp only [Call.finish]
    split <;> rfl

theorem run_of_final (hfinal : q.final.isSome) (c : Call) : c.run q = c.finish q := by
  have hsome : q.final ≠ none := by simpa [Option.isSome_iff_ne_none] using hfinal
  rw [c.run_eq, fill_of_not fun h => hsome h.2]

theorem final_finish (c : Call) (q : TokenQueue) : (c.finish q).2.final = q.final := by
  cases c with
  | peek n =>
    simp only [Call.finish]
    split <;> rfl
  | isEof => rfl
  | next =>
    simp only [Call.finish]
    split <;> rfl

theorem final_calls {t : Token} (hfinal : h.queue.final = some t) (cs : List Call) :
    (h.calls cs).queue.final = some t := by
  induction cs generalizing h with
  | nil => exact hfinal
  | cons c cs ih =>
    refine ih ?_
    show (c.run h.queue).2.final = some t
    rw [run_of_final (by rw [hfinal]; rfl), final_finish, hfinal]

end Step

/-! ## The queue and the list -/

/-- The end is known to be `t`: no other token stands for it, and the stream does not matter any
more. -/
structure Settled (t : Token) (q : TokenQueue) : Prop where
  same : ∀ n u, ((Call.peek n).run q).1 = .ok (.token u) → u.kind = .eof → u = t
  untouched : ∀ (d : Call) other,
    d.run { q with stream := other } = ((d.run q).1, { (d.run q).2 with stream := other })

/-- What one more call on a queue comes to, told by the content of the stream. -/
structure Refines (s : TokenStream) (h : History) (c : Call) : Prop where
  position : h.queue.position = h.taken ∧ h.taken ≤ s.content.length
  /-- Every call is answered by the content, but for the one that raises the error. -/
  answered : (∀ e, (c.run h.queue).1 ≠ .error (.scan e)) →
    c.Answered s.content h.taken (c.run h.queue).1
  raised : ∀ e, (c.run h.queue).1 = .error (.scan e) ↔
    s.error? = some e ∧ h.asked ≤ s.content.length ∧ s.content.length < c.reach h.taken
  /-- The error leaves the queue where it stands, and is not raised again. -/
  raised_once : ∀ e, (c.run h.queue).1 = .error (.scan e) →
    (c.run h.queue).2.position = h.queue.position ∧
      h.queue.buffer <+: (c.run h.queue).2.buffer ∧
      ∀ more (d : Call) f, (d.run ((h.call c).calls more).queue).1 ≠ .error (.scan f)
  negative : ∀ n < 0, (Call.peek n).run h.queue = (.error (.negativeLookahead n), h.queue)
  /-- A call past the end takes nothing; all that it can change is that the end is known. -/
  past_end : (c.run h.queue).1 = .error .pastEnd →
    (c.run h.queue).2.position = h.queue.position ∧
      (c.run h.queue).2.buffer = h.queue.buffer ∧
      (h.queue.final.isSome → (c.run h.queue).2 = h.queue)
  /-- An end token that was seen once stands for the end ever after, and it is the one of the
  stream if that has one. -/
  settled : ∀ t, (c.run h.queue).1 = .ok (.token t) → t.kind = .eof →
    (∀ u ∈ s.final?, u = t) ∧ ∀ more, Settled t ((h.call c).calls more).queue
  /-- No more tokens are pulled than the calls look at, and those are gone from the stream. -/
  pulled : (c.run h.queue).2.pulled = min s.extent (max h.asked (c.reach h.taken))
  stream : (c.run h.queue).2.stream.tokens = s.tokens.drop (c.run h.queue).2.pulled

section Refines

variable {s : TokenStream} {h : History} {q : TokenQueue} {c : Call}

theorem run_peek_of_neg {n : Int} (hn : n < 0) (q : TokenQueue) :
    (Call.peek n).run q = (.error (.negativeLookahead n), q) := by
  simp only [Call.run, TokenQueue.peek, if_pos hn]
  rfl

theorem Sound.raised (hs : Sound s h) (c : Call) (e : ScanError) :
    (c.run h.queue).1 = .error (.scan e) ↔
      s.error? = some e ∧ h.asked ≤ s.content.length ∧ s.content.length < c.reach h.taken := by
  rcases c.run_cases h.queue with ⟨f, q, hrun, hq⟩ | ⟨q, hrun, hq, -⟩
  · rw [← hs.raised_iff hq, hrun]
    simp
  · rw [← hs.raised_iff hq, hrun]
    exact iff_of_false (c.finish_ne_scan q e) nofun

theorem asked_le_calls (h : History) (cs : List Call) : h.asked ≤ (h.calls cs).asked := by
  induction cs generalizing h with
  | nil => exact Nat.le_refl _
  | cons c cs ih => exact Nat.le_trans (Nat.le_max_left _ _) (ih (h.call c))

theorem Sound.settled {t : Token} (hs : Sound s h) (hfinal : h.queue.final = some t) :
    Settled t h.queue := by
  have hsome : h.queue.final.isSome := by rw [hfinal]; rfl
  constructor
  · intro n u hreply hu
    rw [run_of_final hsome] at hreply
    have hlast := final_of_finish hs (.inr hsome) hreply hu
    rw [final_finish, hfinal] at hlast
    exact (Option.some.inj hlast).symm
  · intro d other
    rw [run_of_final hsome, run_of_final (q := { h.queue with stream := other }) hsome]
    exact finish_stream d h.queue other

/-- A filled buffer that is found empty was empty before, and nothing is taken. -/
theorem finish_pastEnd (h : (c.finish q).1 = .error .pastEnd) :
    q.buffer = [] ∧ (c.finish q).2 = q := by
  cases c with
  | peek n =>
    by_cases hn : n < 0
    · rw [Call.finish_peek_of_neg hn] at h
      cases h
    · rw [Call.finish_peek hn] at h
      cases h
  | next =>
    cases hbuffer : q.buffer with
    | nil =>
      rw [Call.finish_next_nil hbuffer]
      exact ⟨rfl, rfl⟩
    | cons t rest =>
      rw [Call.finish_next_cons hbuffer] at h
      cases h
  | isEof => cases h

theorem Sound.refines (hs : Sound s h) (c : Call) : Refines s h c where
  position := ⟨hs.position, hs.taken_le⟩
  answered hfree := by
    rcases c.run_cases h.queue with ⟨e, q, hrun, -⟩ | ⟨q, hrun, hq, henough⟩
    · rw [hrun] at hfree
      exact absurd rfl (hfree e)
    · rw [hrun]
      exact (hs.filled hq).answered henough
  raised := hs.raised c
  raised_once e herror := by
    have hlooked := ((hs.raised c e).1 herror).2.2
    rcases c.run_cases h.queue with ⟨f, q, hrun, hq⟩ | ⟨q, hrun, -⟩
    · rw [hrun]
      refine ⟨hq.position, hq.buffer, fun more d f hagain => ?_⟩
      -- The content was looked behind already.
      have hasked := (((hs.call c).calls more).raised d f).1 hagain
      have hmore := asked_le_calls (h.call c) more
      have hfirst : c.reach h.taken ≤ (h.call c).asked := Nat.le_max_right _ _
      omega
    · rw [hrun] at herror
      exact absurd herror (c.finish_ne_scan q e)
  negative n hn := run_peek_of_neg hn h.queue
  past_end hend := by
    rcases c.run_cases h.queue with ⟨e, q, hrun, -⟩ | ⟨q, hrun, hq, -⟩
    · rw [hrun] at hend
      cases hend
    rw [hrun] at hend
    obtain ⟨hempty, hsame⟩ := finish_pastEnd hend
    have hbuffer := hq.buffer
    rw [hempty] at hbuffer
    refine ⟨?_, ?_, fun hfinal => ?_⟩
    · rw [hrun, hsame, hq.position]
    · rw [hrun, hsame, hempty, List.prefix_nil.1 hbuffer]
    · have hrun' := run_of_final hfinal c
      rw [hrun'] at hrun ⊢
      rw [← hrun] at hend
      exact (finish_pastEnd hend).2
  settled t hreply ht := by
    have hfinal : (c.run h.queue).2.final = some t := by
      rcases c.run_cases h.queue with ⟨e, q, hrun, -⟩ | ⟨q, hrun, hq, henough⟩
      · rw [hrun] at hreply
        cases hreply
      · rw [hrun] at hreply ⊢
        exact final_of_finish (hs.filled hq) henough hreply ht
    refine ⟨((hs.call c).final t hfinal).2, fun more => ?_⟩
    exact ((hs.call c).calls more).settled (final_calls hfinal more)
  pulled := (hs.call c).pulled
  stream := (hs.call c).stream

/-- **A queue is a list with a cursor.** After any calls on a queue over a stream, failed ones
included, one more call is answered by the content of the stream, unless it is the one call that
meets the error of the stream, and it reads the stream no further than the answer needs. -/
theorem refines_list (s : TokenStream) (calls : List Call) (c : Call) :
    Refines s ((History.start s).calls calls) c :=
  ((sound_start s).calls calls).refines c

end Refines

end Cnd.TokenQueue
