import Cnd.Proofs.Grammar.Document
import Cnd.Proofs.Lookahead.Parts

/-!
# Syntax errors are local

A syntax error is found by the tokens in front of the one that it blames, that one and the next
(`parse_error_local`). Every other text that begins with these tokens is refused with the same
error, whatever comes behind them.
-/

namespace Cnd

open Lexical

/-! ## Shared tokens -/

/-- Texts that begin with the same tokens share what is met at their indices. -/
theorem Scan.shared_of_take {a b : String} {n : Nat}
    (h : (scan a).delivered.take n <+: (scan b).delivered) : (scan a).Shared (scan b) n := by
  have hget {i : Nat} {t : Token} (hi : i < n) (ht : (scan a).delivered[i]? = some t) :
      (scan b).delivered[i]? = some t := by
    obtain ⟨rest, hrest⟩ := h
    rw [← List.getElem?_take_of_lt hi] at ht
    rw [← hrest, List.getElem?_append_left (List.getElem?_eq_some_iff.1 ht).1, ht]
  intro i hi t ht
  rcases of_look_ok ht with hget' | ⟨hnone, p, hend, rfl⟩
  · rcases of_getElem?_delivered (hget hi (getElem?_delivered hget')) with hb | ⟨-, q, -, rfl⟩
    · rw [look, hb]
    · exact absurd rfl (kind_ne_eof_of_mem_scan (List.mem_of_getElem? hget'))
  · -- The end of the first text is the end of the second one too.
    have hlength := List.getElem?_eq_none_iff.1 hnone
    rcases of_getElem?_delivered (hget (by omega) (getElem?_delivered_end hend)) with
      hb | ⟨hb, q, hq, hpq⟩
    · exact absurd rfl (kind_ne_eof_of_mem_scan (List.mem_of_getElem? hb))
    · rw [look, List.getElem?_eq_none (by omega), hq, hpq]
      rfl

namespace Document

/-! ## Declarations -/

/-- A reading of declarations that fails at a token fails alike in every scan that shares the token
behind it. -/
theorem local_declarations {a b : Scan} {n : Nat} (hab : a.Shared b n) {known : List String}
    {k : Nat} (hk : k ≤ a.tokens.length) {e : ParseError}
    (h : (readDeclarations a.ending known (a.tokens.drop k)).failure = some (.parse e)) :
    ∃ i, a.delivered[i]? = some e.token ∧ (i + 2 ≤ n → Decided a n k ∧
      (readDeclarations b.ending known (b.tokens.drop k)).failure = some (.parse e)) := by
  -- By the number of tokens that are left. The known prefixes change from one declaration to
  -- the next.
  induction hn : (a.tokens.drop k).length using Nat.strongRecOn generalizing k known with
  | ind m ih =>
    subst hn
    have ho := local_declaration hab known k hk
    generalize hr : readDeclaration ⟨a.ending, known⟩ (a.tokens.drop k) = o at ho
    generalize hr' : readDeclaration ⟨b.ending, known⟩ (b.tokens.drop k) = o' at ho
    cases ho with
    | @parse e' _ i hi hsame =>
      rw [readDeclarations_error hr] at h
      obtain rfl : e' = e := by cases h; rfl
      refine ⟨i, hi, fun hn => ?_⟩
      obtain ⟨hdecided, rfl⟩ := hsame hn
      exact ⟨hdecided, by rw [readDeclarations_error hr']⟩
    | scan =>
      rw [readDeclarations_error hr] at h
      cases h
    | @ok d _ j hj hsame =>
      cases d with
      | none =>
        rw [readDeclarations_none hr] at h
        cases h
      | some d =>
        have hless := offers_declaration.length_lt hr
        rw [readDeclarations_some hr hless] at h
        obtain ⟨i, hi, hmore⟩ := ih _ hless hj h rfl
        refine ⟨i, hi, fun hn => ?_⟩
        obtain ⟨hdecided, hfailure⟩ := hmore hn
        obtain ⟨hfront, rfl⟩ := hsame hdecided
        rw [readDeclarations_some hr' (offers_declaration.length_lt hr')]
        exact ⟨hfront, hfailure⟩

/-! ## Parsing -/

/-- **Syntax errors are local.** If a text is refused for the token at an index, every text that
begins with the tokens up to the one behind it, at the same places, is refused with the same error.
The end of the text counts as a token; where a text has no more tokens, those that it has must be
shared. What comes behind them does not matter, even if it cannot be scanned. -/
theorem parse_error_local (namespaces : Namespaces) (a : String) (e : ParseError)
    (h : parse namespaces a = .error (.parse e)) :
    e.token ∈ (scan a).delivered ∧
      ∀ (k : Nat) (b : String), (scan a).delivered[k]? = some e.token →
        (scan a).delivered.take (k + 2) <+: (scan b).delivered →
          parse namespaces b = .error (.parse e) := by
  have hfailure {n : Nat} {b : Scan} (hab : (scan a).Shared b n) :=
    local_declarations hab (Nat.zero_le _) (Reading.schema_eq_error_iff.1 h)
  refine ⟨?_, fun k b hk hshared => ?_⟩
  · obtain ⟨i, hi, -⟩ := @hfailure 0 (scan a) fun i hi => absurd hi (Nat.not_lt_zero i)
    exact List.mem_of_getElem? hi
  · obtain ⟨i, hi, hsame⟩ := hfailure (Scan.shared_of_take hshared)
    have hlength := (List.getElem?_eq_some_iff.1 hi).1
    obtain rfl : i = k :=
      (List.getElem?_inj hlength (Scan.nodup_delivered a)).1 (hi.trans hk.symm)
    exact Reading.schema_eq_error_iff.2 (hsame (Nat.le_refl _)).2

/-- A minus that no word is glued to is blamed, with the string behind it: a literal that is not
closed comes too late to be met. -/
theorem parse_error_local_minus :
    ∃ e f, e.position = ⟨2, 7, 10⟩ ∧
      parse .empty "[a]\n- p = - 'b' 'c'" = .error (.parse e) ∧
      (scan "[a]\n- p = - 'b' 'c").ending = .error f ∧
      parse .empty "[a]\n- p = - 'b' 'c" = .error (.parse e) := by
  let e : ParseError := ⟨.expectedText, ⟨.minus, some "-", ⟨2, 7, 10⟩⟩⟩
  have h : parse .empty "[a]\n- p = - 'b' 'c'" = .error (.parse e) :=
    Reading.schema_eq_error_iff.2 (by decide +kernel)
  refine ⟨e, ⟨.unterminatedLiteral '\x27', ⟨2, 13, 16⟩⟩, rfl, h, by decide +kernel, ?_⟩
  exact (parse_error_local .empty _ e h).2 6 _ (by decide +kernel) (by decide +kernel)

end Document

end Cnd
