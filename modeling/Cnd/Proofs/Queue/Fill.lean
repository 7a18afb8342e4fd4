import Cnd.Token.Queue

/-!
# Filling the buffer of a queue

Most of a queue is a view of its stream: the tokens that are still to be taken are those in the
buffer and, until the end is known, the content of what is left of the stream (`ahead`). Filling
the buffer moves tokens from the second part to the first and pulls no token that it does not need
(`filled_fill`); all operations on a queue go by this one.
-/

namespace Cnd

/-! ## Streams -/

namespace TokenStream

/-- The tokens in front of the end, be it an end token, an error or the last token. -/
def content (s : TokenStream) : List Token := s.tokens.takeWhile (·.kind ≠ .eof)

/-- The token that ends the content, if the stream has one. -/
def final? (s : TokenStream) : Option Token := s.tokens.find? (·.kind = .eof)

/-- The error that comes behind the content, where no end token does. -/
def error? (s : TokenStream) : Option ScanError :=
  if s.final? = none then s.failure else none

/-- The number of tokens in the content, with the one that ends it. -/
def extent (s : TokenStream) : Nat := s.content.length + s.final?.toList.length

section Cons

variable {t : Token} {rest : List Token} {failure : Option ScanError}

theorem content_cons (h : t.kind ≠ .eof) :
    content ⟨t :: rest, failure⟩ = t :: content ⟨rest, failure⟩ := by
  simp [content, h]

theorem content_end (h : t.kind = .eof) : content ⟨t :: rest, failure⟩ = [] := by
  simp [content, h]

theorem final?_cons (h : t.kind ≠ .eof) :
    final? ⟨t :: rest, failure⟩ = final? ⟨rest, failure⟩ := by
  simp [final?, h]

theorem final?_end (h : t.kind = .eof) : final? ⟨t :: rest, failure⟩ = some t := by
  simp [final?, h]

theorem error?_cons (h : t.kind ≠ .eof) :
    error? ⟨t :: rest, failure⟩ = error? ⟨rest, failure⟩ := by
  rw [error?, error?, final?_cons h]

theorem extent_cons (h : t.kind ≠ .eof) :
    extent ⟨t :: rest, failure⟩ = extent ⟨rest, failure⟩ + 1 := by
  rw [extent, extent, content_cons h, final?_cons h, List.length_cons]
  omega

theorem extent_end (h : t.kind = .eof) : extent ⟨t :: rest, failure⟩ = 1 := by
  rw [extent, content_end h, final?_end h]
  rfl

end Cons

section Pull

variable {s rest : TokenStream}

theorem of_pull_error {e : ScanError} (h : s.pull = (.error e, rest)) :
    s = ⟨[], some e⟩ ∧ rest = ⟨[], none⟩ := by
  obtain ⟨_ | ⟨t, tokens⟩, _ | failure⟩ := s <;> cases h
  exact ⟨rfl, rfl⟩

theorem of_pull_none (h : s.pull = (.ok none, rest)) : s = ⟨[], none⟩ ∧ rest = ⟨[], none⟩ := by
  obtain ⟨_ | ⟨t, tokens⟩, _ | failure⟩ := s <;> cases h
  exact ⟨rfl, rfl⟩

theorem of_pull_some {t : Token} (h : s.pull = (.ok (some t), rest)) :
    s = ⟨t :: rest.tokens, rest.failure⟩ := by
  obtain ⟨_ | ⟨t, tokens⟩, _ | failure⟩ := s <;> cases h <;> rfl

end Pull

end TokenStream

namespace TokenQueue

/-- The tokens that can still be taken. -/
def ahead (q : TokenQueue) : List Token :=
  q.buffer ++ if q.final = none then q.stream.content else []

/-- The number of tokens that can still be pulled: none once the end is known. -/
def unread (q : TokenQueue) : Nat := if q.final = none then q.stream.extent else 0

/-- The error that the stream will still raise if it is read to its end. -/
def pending? (q : TokenQueue) : Option ScanError :=
  if q.final = none then q.stream.error? else none

/-- A buffer that is long enough is left as it is, and so is one behind which nothing comes. -/
theorem fill_of_not {count : Nat} {q : TokenQueue}
    (h : ¬ (q.buffer.length < count ∧ q.final = none)) : q.fill count = (none, q) := by
  rw [fill, if_neg h]

/-- What filling the buffer up to `count` tokens does to the queue `q`: an error, if it raises one,
and the queue behind it. -/
structure Filled (count : Nat) (q : TokenQueue) (e : Option ScanError) (q' : TokenQueue) :
    Prop where
  position : q'.position = q.position
  ahead : q'.ahead = q.ahead
  /-- The tokens in the buffer stay there. -/
  buffer : q.buffer <+: q'.buffer
  pulled : q'.pulled = q.pulled + min (count - q.buffer.length) q.unread
  unread : q'.pulled + q'.unread = q.pulled + q.unread
  /-- The tokens that are pulled are gone from the stream. -/
  stream : q'.stream.tokens = q.stream.tokens.drop (q'.pulled - q.pulled)
  /-- Until the end is known, all tokens that are pulled come into the buffer. -/
  pulled_of_final : q'.final = none →
    q'.pulled + q.buffer.length = q.pulled + q'.buffer.length ∧
      q'.stream.final? = q.stream.final?
  final : q'.final = q.final ∨ q.final = none ∧ ∃ t, q'.final = some t ∧ t.kind = .eof ∧
    ∀ u ∈ q.stream.final?, u = t
  /-- The buffer is long enough or the end is known, unless the error of the stream is raised. -/
  outcome : (e = none ∧ q'.pending? = q.pending? ∧
      (count ≤ q'.buffer.length ∨ q'.final.isSome)) ∨
    e.isSome ∧ q.pending? = e ∧ q.ahead.length < count ∧ q'.pending? = none ∧ q'.final = none

/-- Nothing is pulled where the buffer is long enough or the end is known. -/
theorem filled_rfl {count : Nat} {q : TokenQueue}
    (h : ¬ (q.buffer.length < count ∧ q.final = none)) : Filled count q none q where
  position := .refl _
  ahead := .refl _
  buffer := List.prefix_refl _
  pulled := by
    rw [unread]
    split
    · have hlength : ¬ q.buffer.length < count := fun hlength => h ⟨hlength, ‹_›⟩
      omega
    · omega
  unread := .refl _
  stream := by rw [Nat.sub_self, List.drop_zero]
  pulled_of_final _ := ⟨.refl _, .refl _⟩
  final := .inl (.refl _)
  outcome := by
    refine .inl ⟨.refl _, .refl _, ?_⟩
    cases hfinal : q.final with
    | none => exact .inl (Nat.le_of_not_lt fun hlength => h ⟨hlength, hfinal⟩)
    | some t => exact .inr (.refl _)

/-- One token is pulled and put into the buffer before the others are. -/
theorem filled_push {count : Nat} {q q₁ q' : TokenQueue} {e : Option ScanError} {t : Token}
    {rest : TokenStream} (hlength : q.buffer.length < count) (hfinal : q.final = none)
    (hstream : q.stream = ⟨t :: rest.tokens, rest.failure⟩) (ht : t.kind ≠ .eof)
    (hq₁ : q₁ = { q with buffer := q.buffer ++ [t], pulled := q.pulled + 1, stream := rest })
    (h : Filled count q₁ e q') : Filled count q e q' := by
  have hfinal₁ : q₁.final = q.final := by rw [hq₁]
  have hbuffer₁ : q₁.buffer = q.buffer ++ [t] := by rw [hq₁]
  have hlength₁ : q₁.buffer.length = q.buffer.length + 1 := by rw [hbuffer₁]; simp
  have hpulled₁ : q₁.pulled = q.pulled + 1 := by rw [hq₁]
  have hahead : q₁.ahead = q.ahead := by
    simp [ahead, hq₁, hfinal, hstream, TokenStream.content_cons ht]
  have hunread : q.unread = q₁.unread + 1 := by
    simp [unread, hq₁, hfinal, hstream, TokenStream.extent_cons ht]
  have hpending : q₁.pending? = q.pending? := by
    simp [pending?, hq₁, hfinal, hstream, TokenStream.error?_cons ht]
  have hlast : q₁.stream.final? = q.stream.final? := by
    simp [hq₁, hstream, TokenStream.final?_cons ht]
  refine ⟨?_, h.ahead.trans hahead, ?_, ?_, ?_, ?_, fun hnone => ⟨?_, ?_⟩, ?_, ?_⟩
  · rw [h.position, hq₁]
  · exact (hbuffer₁ ▸ List.prefix_append _ _).trans h.buffer
  · have := h.pulled
    omega
  · have := h.unread
    omega
  · have hpulled := h.pulled
    have hstream₁ : q₁.stream = rest := by rw [hq₁]
    have hsucc : q'.pulled - q.pulled = q'.pulled - q₁.pulled + 1 := by omega
    rw [h.stream, hstream, hstream₁, hsucc, List.drop_succ_cons]
  · have := (h.pulled_of_final hnone).1
    omega
  · exact (h.pulled_of_final hnone).2.trans hlast
  · have hend := h.final
    rwa [hfinal₁, hlast] at hend
  · have hout := h.outcome
    rwa [hpending, hahead] at hout

theorem filled_fill (count : Nat) (q : TokenQueue) :
    Filled count q (q.fill count).1 (q.fill count).2 := by
  fun_induction fill count q with
  | case1 q h e rest hpull =>
    obtain ⟨hlength, hfinal⟩ := h
    obtain ⟨hstream, rfl⟩ := TokenStream.of_pull_error hpull
    refine ⟨rfl, ?_, List.prefix_refl _, ?_, ?_, ?_, fun _ => ⟨rfl, ?_⟩, .inl rfl, .inr ?_⟩
    all_goals simp [ahead, unread, pending?, hfinal, hstream, TokenStream.content,
      TokenStream.extent, TokenStream.final?, TokenStream.error?, hlength]
  | case2 q h rest hpull =>
    obtain ⟨hlength, hfinal⟩ := h
    obtain ⟨hstream, rfl⟩ := TokenStream.of_pull_none hpull
    refine ⟨rfl, ?_, List.prefix_refl _, ?_, ?_, ?_, nofun, .inr ⟨hfinal, _, rfl, rfl, ?_⟩, .inl ?_⟩
    all_goals simp [ahead, unread, pending?, hfinal, hstream, TokenStream.content,
      TokenStream.extent, TokenStream.final?, TokenStream.error?]
  | case3 q h t rest hpull q' ht =>
    obtain ⟨hlength, hfinal⟩ := h
    have hstream := TokenStream.of_pull_some hpull
    refine ⟨rfl, ?_, List.prefix_refl _, ?_, ?_, ?_, nofun, .inr ⟨hfinal, t, rfl, ht, ?_⟩, .inl ?_⟩
    all_goals simp [q', ahead, unread, pending?, hfinal, hstream, TokenStream.content_end ht,
      TokenStream.extent_end ht, TokenStream.final?_end ht, TokenStream.error?]
    omega
  | case4 q h t rest hpull q' ht ih =>
    exact filled_push h.1 h.2 (TokenStream.of_pull_some hpull) ht rfl ih
  | case5 q h => exact filled_rfl h

end TokenQueue

end Cnd
