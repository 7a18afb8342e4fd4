import Cnd.Proofs.Grammar.Combinators
import Cnd.Proofs.Layout.Alike

/-!
# How far a reading looks

A rule looks at a few tokens behind those that it takes. So what it does with one scan it does with
every other one that shares the first tokens with it (`Shared`), as long as all the tokens that it
has looked at are among them (`Local`). How many of them are needed is said at both ends of what
a rule reads, and is counted back from what is needed at the end to what is needed at the front. A
token that is blamed needs the one behind it and no more.

The lemmas take this through the monad and through the combinators of rules.
-/

namespace Cnd

namespace Scan

/-- What is met at an index: a token, the end of the text, or the error that stopped the scan. -/
def look (s : Scan) (i : Nat) : Except ScanError Token :=
  match s.tokens[i]? with
  | some t => .ok t
  | none => s.ending.map Token.atEnd

/-- What is met in `a` at one of the first `n` indices is met in `b` too, unless it is an error. -/
def Shared (a b : Scan) (n : Nat) : Prop := ∀ i < n, ∀ t, a.look i = .ok t → b.look i = .ok t

section Look

variable {s : Scan} {k : Nat} {t : Token}

theorem of_look_ok (h : s.look k = .ok t) :
    s.tokens[k]? = some t ∨ s.tokens[k]? = none ∧ ∃ p, s.ending = .ok p ∧ t = .atEnd p := by
  rw [look] at h
  cases hget : s.tokens[k]? with
  | some u =>
    rw [hget] at h
    exact .inl (congrArg some (Except.ok.inj h))
  | none =>
    rw [hget] at h
    cases hend : s.ending with
    | error e =>
      rw [hend] at h
      cases h
    | ok p =>
      rw [hend] at h
      cases h
      exact .inr ⟨rfl, p, rfl, rfl⟩

theorem getElem?_of_look (h : s.look k = .ok t) (ht : t.kind ≠ .eof) : s.tokens[k]? = some t := by
  rcases of_look_ok h with hget | ⟨-, p, -, rfl⟩
  · exact hget
  · exact absurd rfl ht

theorem delivered_of_look (h : s.look k = .ok t) (hk : k ≤ s.tokens.length) :
    s.delivered[k]? = some t := by
  rcases of_look_ok h with hget | ⟨hget, p, hend, rfl⟩
  · exact getElem?_delivered hget
  · rw [Nat.le_antisymm hk (List.getElem?_eq_none_iff.1 hget)]
    exact getElem?_delivered_end hend

theorem lt_of_look (h : s.look k = .ok t) (ht : t.kind ≠ .eof) : k < s.tokens.length :=
  (List.getElem?_eq_some_iff.1 (getElem?_of_look h ht)).1

theorem drop_of_look (h : s.look k = .ok t) (ht : t.kind ≠ .eof) :
    s.tokens.drop k = t :: s.tokens.drop (k + 1) := by
  obtain ⟨hk, rfl⟩ := List.getElem?_eq_some_iff.1 (getElem?_of_look h ht)
  exact List.drop_eq_getElem_cons hk

end Look

section Shared

variable {a b : Scan}

theorem look_of_begin {s : Scan} {done : List Token} (h : done <+: s.tokens) {i : Nat}
    (hi : i < done.length) : s.look i = .ok done[i] := by
  obtain ⟨rest, hrest⟩ := h
  rw [look, ← hrest, List.getElem?_append_left hi, List.getElem?_eq_getElem hi]

theorem shared_of_begin {done : List Token} (ha : done <+: a.tokens) (hb : done <+: b.tokens) :
    a.Shared b done.length := by
  intro i hi t ht
  rw [look_of_begin ha hi] at ht
  rw [look_of_begin hb hi, ht]

/-- A scan that has failed has nothing behind its tokens that another one may lack. -/
theorem shared_of_error {e : ScanError} {n : Nat} (he : a.ending = .error e)
    (h : a.tokens <+: b.tokens) : a.Shared b n := by
  intro i _ t ht
  rcases of_look_ok ht with hget | ⟨-, p, hp, -⟩
  · obtain ⟨hi, rfl⟩ := List.getElem?_eq_some_iff.1 hget
    exact look_of_begin h hi
  · cases he.symm.trans hp

end Shared

end Scan

namespace Document

open Rule

/-! ## Rules in front of a token -/

section Front

variable {β : Type} {s : Scan} {known : List String} {k : Nat} {t : Token}

theorem peek_eq_look (s : Scan) (known : List String) (k n : Nat) :
    peek n ⟨s.ending, known⟩ (s.tokens.drop k) =
      match s.look (k + n) with
      | .ok t => .ok (t, s.tokens.drop k)
      | .error e => .error (.scan e) := by
  rw [peek, Scan.look, List.getElem?_drop]
  cases s.tokens[k + n]? with
  | some t => rfl
  | none => cases s.ending <;> rfl

theorem peek_of_look {n : Nat} (h : s.look (k + n) = .ok t) :
    peek n ⟨s.ending, known⟩ (s.tokens.drop k) = .ok (t, s.tokens.drop k) := by
  rw [peek_eq_look, h]

theorem accept?_of_look_take {f : Token → Option β} {c : β} (h : s.look k = .ok t)
    (ht : t.kind ≠ .eof) (hf : f t = some c) :
    accept? f ⟨s.ending, known⟩ (s.tokens.drop k) = .ok (some c, s.tokens.drop (k + 1)) := by
  rw [Scan.drop_of_look h ht]
  exact accept?_take ht hf

theorem accept?_of_look_leave {f : Token → Option β} (h : s.look k = .ok t)
    (hf : t.kind ≠ .eof → f t = none) :
    accept? f ⟨s.ending, known⟩ (s.tokens.drop k) = .ok (none, s.tokens.drop k) := by
  rw [accept?, bind_ok (peek_of_look (n := 0) h)]
  by_cases ht : t.kind = .eof
  · rw [if_pos ht]
    rfl
  · rw [if_neg ht, hf ht]
    rfl

theorem accept?_of_look_error {f : Token → Option β} {e : ScanError} (h : s.look k = .error e) :
    accept? f ⟨s.ending, known⟩ (s.tokens.drop k) = .error (.scan e) := by
  have hpeek := peek_eq_look s known k 0
  rw [Nat.add_zero, h] at hpeek
  exact bind_error hpeek

theorem behind_of_look {rule : Rule β} {kind : Token.Kind} (h : s.look k = .ok t)
    (ht : t.kind = kind) (hkind : kind ≠ .eof) :
    behind kind rule ⟨s.ending, known⟩ (s.tokens.drop k) =
      (some <$> rule) ⟨s.ending, known⟩ (s.tokens.drop (k + 1)) := by
  rw [Scan.drop_of_look h (ht ▸ hkind), behind, bind_ok (accept_take ht hkind)]
  rfl

end Front

/-! ## Outcomes -/

section Local

variable {α β γ : Type} {a b : Scan} {n k : Nat} {enough enough' : Prop}
  {start start' mid finish finish' : Nat → Prop}

/-- The outcome of a reading of `a`, beside the one of a reading of `b`: if enough tokens are shared
at the end of what was read, or up to the one behind the token that is blamed, then enough are
shared at the front, and the outcomes are the same. An error of the scan says nothing about `b`. -/
inductive LocalOutcome (a b : Scan) (n : Nat) (enough : Prop) (finish : Nat → Prop) :
    Except Failure (β × List Token) → Except Failure (β × List Token) → Prop
  | ok {x : β} {o : Except Failure (β × List Token)} {j : Nat} (hj : j ≤ a.tokens.length)
      (h : finish j → enough ∧ o = .ok (x, b.tokens.drop j)) :
      LocalOutcome a b n enough finish (.ok (x, a.tokens.drop j)) o
  | parse {e : ParseError} {o : Except Failure (β × List Token)} {i : Nat}
      (hi : a.delivered[i]? = some e.token) (h : i + 2 ≤ n → enough ∧ o = .error (.parse e)) :
      LocalOutcome a b n enough finish (.error (.parse e)) o
  | scan {e : ScanError} {o : Except Failure (β × List Token)} :
      LocalOutcome a b n enough finish (.error (.scan e)) o

/-- The rule reads alike from both scans, if they share what is needed at the end of what it
reads; and then they share what is needed at its front. -/
def Local (a b : Scan) (n : Nat) (start finish : Nat → Prop) (rule : Rule β) : Prop :=
  ∀ (known : List String) (k : Nat), k ≤ a.tokens.length →
    LocalOutcome a b n (start k) finish
      (rule ⟨a.ending, known⟩ (a.tokens.drop k)) (rule ⟨b.ending, known⟩ (b.tokens.drop k))

/-- The tokens up to the one `m` places on are among the first `n`. -/
def Within (n m k : Nat) : Prop := k + m < n

/-- Behind a token that is taken one fewer is needed. -/
theorem within_succ {m : Nat} : Within n m (k + 1) ↔ Within n (m + 1) k := by
  rw [Within, Within, Nat.add_assoc, Nat.add_comm 1]

theorem Within.front {m : Nat} (h : Within n m k) : Within n 0 k :=
  Nat.lt_of_le_of_lt (Nat.le_add_right k m) h

theorem Within.back (h : Within n 0 (k + 1)) : Within n 0 k := (within_succ.1 h).front

namespace LocalOutcome

variable {o o' o'' : Except Failure (β × List Token)}

/-- The other outcome may be another one that is the same if enough is shared. -/
theorem congr (h : LocalOutcome a b n enough finish o o')
    (hsame : enough → enough' ∧ o'' = o') : LocalOutcome a b n enough' finish o o'' := by
  cases h with
  | ok hj h =>
    refine .ok hj fun hfinish => ?_
    obtain ⟨henough, rfl⟩ := h hfinish
    exact hsame henough
  | parse hi h =>
    refine .parse hi fun hn => ?_
    obtain ⟨henough, rfl⟩ := h hn
    exact hsame henough
  | scan => exact .scan

theorem mono (h : LocalOutcome a b n enough finish o o') (hfinish : ∀ j, finish' j → finish j) :
    LocalOutcome a b n enough finish' o o' := by
  cases h with
  | ok hj h => exact .ok hj fun hend => h (hfinish _ hend)
  | parse hi h => exact .parse hi h
  | scan => exact .scan

/-- A token is looked at that is shared. -/
theorem peek {f : Token → Rule β} {known : List String} {m : Nat} (hab : a.Shared b n)
    (hm : enough → Within n m k)
    (hf : ∀ t, a.look (k + m) = .ok t → LocalOutcome a b n enough finish
      (f t ⟨a.ending, known⟩ (a.tokens.drop k)) (f t ⟨b.ending, known⟩ (b.tokens.drop k))) :
    LocalOutcome a b n enough finish
      ((peek m >>= f) ⟨a.ending, known⟩ (a.tokens.drop k))
      ((peek m >>= f) ⟨b.ending, known⟩ (b.tokens.drop k)) := by
  cases ht : a.look (k + m) with
  | error e =>
    have hpeek := peek_eq_look a known k m
    rw [ht] at hpeek
    rw [bind_error hpeek]
    exact .scan
  | ok t =>
    rw [bind_ok (peek_of_look ht)]
    exact (hf t ht).congr fun henough =>
      ⟨henough, bind_ok (peek_of_look (hab _ (hm henough) t ht))⟩

/-- What the second rule needs at its front, the first one needs at its end. -/
theorem bind {rule : Rule β} {f : β → Rule γ} {known : List String} {ts us : List Token}
    (h : LocalOutcome a b n enough mid (rule ⟨a.ending, known⟩ ts) (rule ⟨b.ending, known⟩ us))
    (hf : ∀ {x j}, rule ⟨a.ending, known⟩ ts = .ok (x, a.tokens.drop j) → j ≤ a.tokens.length →
      LocalOutcome a b n (mid j) finish
        (f x ⟨a.ending, known⟩ (a.tokens.drop j)) (f x ⟨b.ending, known⟩ (b.tokens.drop j))) :
    LocalOutcome a b n enough finish
      ((rule >>= f) ⟨a.ending, known⟩ ts) ((rule >>= f) ⟨b.ending, known⟩ us) := by
  generalize hr : rule ⟨a.ending, known⟩ ts = o at h
  generalize hr' : rule ⟨b.ending, known⟩ us = o' at h
  cases h with
  | ok hj hsame =>
    rw [bind_ok hr]
    refine (hf hr hj).congr fun hmid => ?_
    obtain ⟨henough, rfl⟩ := hsame hmid
    exact ⟨henough, bind_ok hr'⟩
  | parse hi hsame =>
    rw [bind_error hr]
    refine .parse hi fun hn => ?_
    obtain ⟨henough, rfl⟩ := hsame hn
    exact ⟨henough, bind_error hr'⟩
  | scan =>
    rw [bind_error hr]
    exact .scan

end LocalOutcome

/-! ## The monad -/

namespace Local

variable {rule : Rule β}

theorem mono (h : Local a b n start finish rule) (hstart : ∀ k, start k → start' k)
    (hfinish : ∀ j, finish' j → finish j) : Local a b n start' finish' rule :=
  fun known k hk => ((h known k hk).mono hfinish).congr fun hs => ⟨hstart k hs, rfl⟩

theorem front (h : Local a b n (Within n 1) finish rule) : Local a b n (Within n 0) finish rule :=
  h.mono (fun _ => Within.front) fun _ => id

theorem pure (x : β) (h : ∀ k, finish k → start k) :
    Local a b n start finish (Pure.pure x : Rule β) :=
  fun _ k hk => .ok hk fun hfinish => ⟨h k hfinish, rfl⟩

theorem bind {f : β → Rule γ} (h : Local a b n start mid rule)
    (hf : ∀ x, Local a b n mid finish (f x)) : Local a b n start finish (rule >>= f) :=
  fun known k hk => (h known k hk).bind fun _ hj => hf _ known _ hj

theorem map (h : Local a b n start finish rule) (g : β → γ) :
    Local a b n start finish (g <$> rule) := by
  rw [← bind_pure_comp]
  exact h.bind fun x => .pure (g x) fun _ => id

/-! ## Tokens -/

/-- The front token is taken or left. If it is taken, one fewer is needed behind it. -/
theorem taking {f : Token → Option β} {g : Option β → Rule γ} (hab : a.Shared b n)
    (hstart : ∀ k, start k → Within n 0 k)
    (htake : ∀ {k t c}, a.look k = .ok t → f t = some c → mid (k + 1) → start k)
    (hg : ∀ c, Local a b n mid finish (g (some c)))
    (hleave : ∀ {known k t}, k ≤ a.tokens.length → a.look k = .ok t →
      (t.kind ≠ .eof → f t = none) → LocalOutcome a b n (start k) finish
        (g none ⟨a.ending, known⟩ (a.tokens.drop k)) (g none ⟨b.ending, known⟩ (b.tokens.drop k))) :
    Local a b n start finish (accept? f >>= g) := by
  intro known k hk
  cases ht : a.look k with
  | error e =>
    rw [bind_error (accept?_of_look_error ht)]
    exact .scan
  | ok t =>
    have ht' (hs : start k) : b.look k = .ok t := hab k (hstart k hs) t ht
    by_cases htaken : t.kind ≠ .eof ∧ ∃ c, f t = some c
    · obtain ⟨heof, c, hc⟩ := htaken
      rw [bind_ok (accept?_of_look_take ht heof hc)]
      refine (hg c known (k + 1) (Scan.lt_of_look ht heof)).congr fun hmid => ?_
      have hs := htake ht hc hmid
      exact ⟨hs, bind_ok (accept?_of_look_take (ht' hs) heof hc)⟩
    · have hnone (heof : t.kind ≠ .eof) : f t = none :=
        Option.eq_none_iff_forall_ne_some.2 fun c hc => htaken ⟨heof, c, hc⟩
      rw [bind_ok (accept?_of_look_leave ht hnone)]
      exact (hleave hk ht hnone).congr fun hs =>
        ⟨hs, bind_ok (accept?_of_look_leave (ht' hs) hnone)⟩

/-- A symbol is taken or left. -/
theorem symbol {kind : Token.Kind} {g : Bool → Rule γ} (hab : a.Shared b n)
    (hstart : ∀ k, start k → Within n 0 k)
    (htake : ∀ {k t}, a.look k = .ok t → t.kind = kind → mid (k + 1) → start k)
    (hg : Local a b n mid finish (g true)) (hg' : Local a b n start finish (g false)) :
    Local a b n start finish (accept kind >>= g) := by
  have h : Local a b n start finish (accept? (fun t => if t.kind = kind then some () else none) >>=
      fun o => g o.isSome) := by
    refine taking hab hstart (fun ht hc => htake ht ?_) (fun _ => hg) fun hk _ _ => hg' _ _ hk
    split at hc
    · assumption
    · cases hc
  rwa [accept, bind_assoc]

/-- A token that has to be there. Whether it is or not, the one behind it is not needed. -/
theorem required {q : Token → Option Token} {cause : ParseError.Cause} {rule : Rule Token}
    (hrule : rule = accept? q >>= fun
      | some t => return t
      | none => peek 0 >>= fail cause) (hab : a.Shared b n)
    (hstart : ∀ k, start k → Within n 0 k)
    (htake : ∀ {k t c}, a.look k = .ok t → q t = some c → finish (k + 1) → start k)
    (hblame : ∀ {k t}, a.look k = .ok t → (t.kind ≠ .eof → q t = none) → Within n 1 k → start k) :
    Local a b n start finish rule := by
  rw [hrule]
  refine taking hab hstart htake (fun c => .pure c fun _ => id) fun {known k t} hk ht hnone => ?_
  -- The front token is looked at once more, to be blamed.
  refine .peek hab (hstart k) fun u hu => ?_
  obtain rfl := Except.ok.inj (hu.symm.trans ht)
  exact .parse (Scan.delivered_of_look ht hk) fun hn => ⟨hblame ht hnone hn, rfl⟩

theorem expect (hab : a.Shared b n) (kind : Token.Kind) :
    Local a b n (Within n 1) (Within n 0) (expect kind) :=
  required rfl hab (fun _ => Within.front) (fun _ _ => within_succ.1) fun _ _ => id

theorem text (hab : a.Shared b n) : Local a b n (Within n 1) (Within n 0) text :=
  required rfl hab (fun _ => Within.front) (fun _ _ => within_succ.1) fun _ _ => id

/-- A token that is read and then checked, with no look at others. -/
theorem checked {q : Token → Prop} {first : Rule Token} {f : Token → Rule β}
    {follow : List Token → Prop} (hreads : Reads first (fun t : {t // q t} => t.1) follow)
    (h : Local a b n (Within n 1) (Within n 0) first)
    (hf : ∀ t known,
      (∃ x, ∀ ending rest, f t ⟨ending, known⟩ rest = .ok (x, rest)) ∨
        ∃ cause, ∀ ending rest, f t ⟨ending, known⟩ rest = .error (.parse ⟨cause, t⟩)) :
    Local a b n (Within n 1) (Within n 0) (first >>= f) := by
  intro known k hk
  refine (h known k hk).bind fun {t j} hr hj => ?_
  rcases hf t known with ⟨x, hx⟩ | ⟨cause, hx⟩
  · rw [hx, hx]
    exact .ok hj fun hn => ⟨hn, rfl⟩
  · -- The token that is blamed is the one that was read.
    obtain ⟨t, htokens, rfl, -⟩ := hreads.derives hr
    rw [tokens_subtype, List.singleton_append] at htokens
    have ht : a.tokens[k]? = some t.1 := by
      rw [← Nat.add_zero k, ← List.getElem?_drop, htokens]
      rfl
    have hlength := congrArg List.length htokens
    rw [List.length_cons, List.length_drop, List.length_drop] at hlength
    rw [hx, hx]
    refine .parse (Scan.getElem?_delivered ht) fun hn => ⟨?_, rfl⟩
    rw [Within]
    omega

/-! ## Combinators -/

theorem variant (hab : a.Shared b n) : Local a b n (Within n 0) (Within n 0) variant := by
  have h : Local a b n (Within n 0) (Within n 0) (accept .question >>= Pure.pure) :=
    symbol hab (fun _ => id) (fun _ _ hn => hn.back)
      (.pure true fun _ => id) (.pure false fun _ => id)
  rwa [bind_pure] at h

theorem upTo (hab : a.Shared b n) (kind : Token.Kind)
    (h : Local a b n start (Within n 0) rule) : Local a b n start (Within n 0) (upTo kind rule) :=
  h.bind fun x => (Local.expect hab kind).front.map fun _ => x

/-- A rule behind a symbol. If the symbol is not there, the token in its place was looked at. -/
theorem behind {kind : Token.Kind} (hab : a.Shared b n) (h : Local a b n mid finish rule)
    (hstart : ∀ k, start k → Within n 0 k)
    (htake : ∀ {k t}, a.look k = .ok t → t.kind = kind → mid (k + 1) → start k)
    (hfinish : ∀ k, finish k → start k) : Local a b n start finish (behind kind rule) :=
  symbol hab hstart htake (h.map some) (.pure none hfinish)

/-- Of the tokens around what it reads, the rule needs the front one at either end. -/
theorem behind_within {kind : Token.Kind} (hab : a.Shared b n)
    (h : Local a b n (Within n 1) (Within n 0) rule) :
    Local a b n (Within n 0) (Within n 0) (Rule.behind kind rule) :=
  h.behind hab (fun _ => id) (fun _ _ hn => hn.front.back) fun _ => id

theorem orSymbol (hab : a.Shared b n) (kind : Token.Kind) (x : β)
    (h : Local a b n (Within n 1) (Within n 0) rule) :
    Local a b n (Within n 1) (Within n 0) (orSymbol kind x rule) :=
  symbol hab (fun _ => Within.front) (fun _ _ => within_succ.1)
    (.pure x fun _ => id) h

theorem orVariant (hab : a.Shared b n) (h : Local a b n (Within n 1) (Within n 0) rule) :
    Local a b n (Within n 1) (Within n 0) (orVariant rule) :=
  (h.map some).orSymbol hab .question none

theorem orElse {first second : Rule (Option β)} (h : Local a b n start mid first)
    (h' : Local a b n mid finish second) (hfinish : ∀ j, finish j → mid j) :
    Local a b n start finish (orElse first second) := by
  refine h.bind fun x => ?_
  cases x with
  | none => exact h'
  | some x => exact .pure (some x) hfinish

theorem phrase {κ : Type} {f : Token → Option κ} {argument : κ → Rule β} (hab : a.Shared b n)
    (h : ∀ c, Local a b n (Within n 0) (Within n 0) (argument c)) :
    Local a b n (Within n 0) (Within n 0) (phrase f argument) := by
  refine taking hab (fun _ => id) (fun _ _ hn => ?_) (fun c => (h c).map some) fun hk _ _ => ?_
  · exact hn.back
  · exact .ok hk fun hn => ⟨hn, rfl⟩

/-- A repeated rule needs at its front what it needs at its end. -/
theorem many {rule : Rule (Option β)} {value : α → β} [Phrase α] {follow stop : List Token → Prop}
    (hoffers : Offers rule value follow stop) (h : Local a b n start start rule) :
    Local a b n start start (many rule) := by
  intro known k hk
  -- By the number of tokens that are left: each tree takes at least one.
  induction hn : (a.tokens.drop k).length using Nat.strongRecOn generalizing k with
  | ind m ih =>
    subst hn
    rw [many_eq fun hx => hoffers.length_lt hx, many_eq fun hx => hoffers.length_lt hx]
    refine (h known k hk).bind fun {x j} hr hj => ?_
    cases x with
    | none => exact .ok hj fun hs => ⟨hs, rfl⟩
    | some x =>
      have hmore := ih _ (hoffers.length_lt hr) j hj rfl
      exact hmore.bind fun _ hi => .ok hi fun hs => ⟨hs, rfl⟩

theorem commaSeparated {value : α → β} [Phrase α] (hab : a.Shared b n)
    (hreads : Reads rule value (Clear [])) (h : Local a b n (Within n 1) (Within n 0) rule) :
    Local a b n (Within n 1) (Within n 0) (commaSeparated rule) := by
  have hcomma := Offers.behind (by decide : Token.Kind.comma ≠ .eof) hreads
  exact h.bind fun x => ((h.behind_within hab).many hcomma).map (x :: ·)

end Local

end Local

end Document

end Cnd
