import Cnd.Proofs.Grammar.Document
import Cnd.Proofs.Mappings
import Cnd.Proofs.Prefixes.Rules

/-!
# More prefixes only enable

Whoever parses a text may let its names use more prefixes. What was parsed is parsed to the same
schema, and what was refused for anything else than an unknown prefix is refused for the same
(`parse_more_prefixes`). An unknown prefix that becomes known lets the reading go on behind the
name; and none of the prefixes gets into the schema.
-/

namespace Cnd.Document

open Rule

variable {s : Scan} {more known known' : List String} {k : Nat}

/-! ## Declarations -/

theorem Adds.nil (known : List String) : Adds [] known known := fun _ => by simp

theorem Adds.knownBehind (h : Adds more known known') (d : Declaration) :
    Adds more (knownBehind known d) (knownBehind known' d) := by
  cases d with
  | mapping key uri => exact h.cons key
  | nodeType t => exact h

/-- What is blamed for the end of a reading is not in front of where it began. -/
theorem onward_declarations (hk : k ≤ s.tokens.length) {e : ParseError}
    (h : (readDeclarations s.ending known (s.tokens.drop k)).failure = some (.parse e)) :
    ∃ i, k ≤ i ∧ s.delivered[i]? = some e.token := by
  induction hn : (s.tokens.drop k).length using Nat.strongRecOn generalizing k known with
  | ind n ih =>
    subst hn
    have ho := eases_declaration.onward (Adds.nil known) hk
    generalize hr : readDeclaration ⟨s.ending, known⟩ (s.tokens.drop k) = o at ho
    cases ho with
    | parse hi htoken =>
      rw [readDeclarations_error hr] at h
      cases h
      exact ⟨_, hi, htoken⟩
    | scan =>
      rw [readDeclarations_error hr] at h
      cases h
    | @ok d j hkj hj =>
      cases d with
      | none =>
        rw [readDeclarations_none hr] at h
        cases h
      | some d =>
        have hless := offers_declaration.length_lt hr
        rw [readDeclarations_some hr hless] at h
        obtain ⟨i, hji, hi⟩ := ih _ hless hj h rfl
        exact ⟨i, Nat.le_trans hkj hji, hi⟩

/-- A reading beside one that knows more prefixes. They are the same, unless the first one ends at a
name with one of the additional prefixes; the second one then ends behind that name. -/
inductive Reading.Eased (s : Scan) (more : List String) : Reading → Reading → Prop
  | same {r : Reading} (h : ∀ key t, r.failure ≠ some (.parse ⟨.unknownPrefix key, t⟩)) :
      Reading.Eased s more r r
  | missed {r : Reading} {key : String} {t : Token}
      (h : r.failure = some (.parse ⟨.unknownPrefix key, t⟩)) (hkey : key ∉ more) :
      Reading.Eased s more r r
  | found {r r' : Reading} {key : String} {t : Token} {i : Nat}
      (h : r.failure = some (.parse ⟨.unknownPrefix key, t⟩)) (hi : s.delivered[i]? = some t)
      (hkey : key ∈ more)
      (h' : ∀ e, r'.failure = some (.parse e) → ∃ j, i < j ∧ s.delivered[j]? = some e.token) :
      Reading.Eased s more r r'

/-- One more declaration in front of both readings makes no difference. -/
theorem Reading.Eased.cons {r r' : Reading} (h : r.Eased s more r') (d : Declaration) :
    Reading.Eased s more ⟨d :: r.declarations, r.failure⟩ ⟨d :: r'.declarations, r'.failure⟩ := by
  cases h with
  | same h => exact .same h
  | missed h hkey => exact .missed h hkey
  | found h hi hkey h' => exact .found h hi hkey h'

theorem eased_declarations (hadds : Adds more known known') (hk : k ≤ s.tokens.length) :
    (readDeclarations s.ending known (s.tokens.drop k)).Eased s more
      (readDeclarations s.ending known' (s.tokens.drop k)) := by
  -- By the number of tokens that are left. The known prefixes change from one declaration to
  -- the next, in both readings alike.
  induction hn : (s.tokens.drop k).length using Nat.strongRecOn generalizing k known known' with
  | ind n ih =>
    subst hn
    have ho := eases_declaration known known' hadds k hk
    generalize hr : readDeclaration ⟨s.ending, known⟩ (s.tokens.drop k) = o at ho
    generalize hr' : readDeclaration ⟨s.ending, known'⟩ (s.tokens.drop k) = o' at ho
    cases ho with
    | @parse e i hi htoken hcause =>
      rw [readDeclarations_error hr, readDeclarations_error hr']
      refine .same fun key t h => hcause key ?_
      cases h
      rfl
    | scan =>
      rw [readDeclarations_error hr, readDeclarations_error hr']
      exact .same nofun
    | missed hi htoken hkey =>
      rw [readDeclarations_error hr, readDeclarations_error hr']
      exact .missed rfl hkey
    | @ok d j hkj hj =>
      cases d with
      | none =>
        rw [readDeclarations_none hr, readDeclarations_none hr']
        exact .same nofun
      | some d =>
        have hless := offers_declaration.length_lt hr
        rw [readDeclarations_some hr hless, readDeclarations_some hr' hless]
        exact (ih _ hless (hadds.knownBehind d) hj rfl).cons d
    | @found key t i _ hi htoken hkey honward =>
      rw [readDeclarations_error hr]
      refine .found rfl htoken hkey fun e he => ?_
      cases honward with
      | parse hj htoken' =>
        rw [readDeclarations_error hr'] at he
        cases he
        exact ⟨_, hj, htoken'⟩
      | scan =>
        rw [readDeclarations_error hr'] at he
        cases he
      | @ok d j hij hj =>
        cases d with
        | none =>
          rw [readDeclarations_none hr'] at he
          cases he
        | some d =>
          rw [readDeclarations_some hr' (offers_declaration.length_lt hr')] at he
          obtain ⟨l, hjl, hl⟩ := onward_declarations hj he
          exact ⟨l, Nat.lt_of_lt_of_le hij hjl, hl⟩

/-! ## Parsing -/

section Schema

variable {r r' : Reading}

/-- If no additional prefix is missed, both readings come to the same. -/
theorem Reading.Eased.schema_eq (h : r.Eased s more r')
    (hother : ∀ key t, key ∈ more → r.schema ≠ .error (.parse ⟨.unknownPrefix key, t⟩)) :
    r'.schema = r.schema := by
  cases h with
  | same _ => rfl
  | missed _ _ => rfl
  | found hfailure _ hkey _ =>
    exact absurd (Reading.schema_eq_error_iff.2 hfailure) (hother _ _ hkey)

/-- Behind an additional prefix that the first reading misses, the second one may end. -/
theorem Reading.Eased.behind {key : String} {t : Token} (h : r.Eased s more r')
    (hparse : r.schema = .error (.parse ⟨.unknownPrefix key, t⟩)) (hkey : key ∈ more) :
    ∃ i : Nat, s.delivered[i]? = some t ∧
      ∀ e, r'.schema = .error (.parse e) → ∃ j : Nat, i < j ∧ s.delivered[j]? = some e.token := by
  have hfailure := Reading.schema_eq_error_iff.1 hparse
  cases h with
  | same hnone => exact absurd hfailure (hnone key t)
  | missed hmissed hnot =>
    cases hfailure.symm.trans hmissed
    exact absurd hkey hnot
  | found hfound hi _ hbehind =>
    cases hfailure.symm.trans hfound
    exact ⟨_, hi, fun e he => hbehind e (Reading.schema_eq_error_iff.1 he)⟩

end Schema

theorem read_eased {namespaces others : Namespaces} (h : namespaces.keys ⊆ others.keys)
    (source : String) :
    (read namespaces source).Eased (scan source) others.keys (read others source) := by
  refine eased_declarations (fun key => ?_) (Nat.zero_le _)
  rw [List.mem_append, List.mem_append, or_assoc]
  exact or_congr_right ⟨.inr, fun hkey => hkey.elim (fun hmem => h hmem) id⟩

/-- **More prefixes only enable.** A text that is parsed, or is refused for anything else than an
unknown prefix, is parsed or refused alike where more prefixes may be used. For an unknown prefix it
is refused alike if the prefix is not among them; otherwise it is only refused for a token further
on, or because it cannot be scanned. A schema has no mapping but those that its text declares. -/
theorem parse_more_prefixes {namespaces others : Namespaces} (h : namespaces.keys ⊆ others.keys)
    (source : String) :
    ((∀ key t, parse namespaces source ≠ .error (.parse ⟨.unknownPrefix key, t⟩)) →
      parse others source = parse namespaces source) ∧
    (∀ key t, parse namespaces source = .error (.parse ⟨.unknownPrefix key, t⟩) →
      (key ∉ others.keys → parse others source = .error (.parse ⟨.unknownPrefix key, t⟩)) ∧
      (key ∈ others.keys → ∃ i : Nat, (scan source).delivered[i]? = some t ∧
        ∀ e, parse others source = .error (.parse e) →
          ∃ j : Nat, i < j ∧ (scan source).delivered[j]? = some e.token)) ∧
    ∀ s, parse namespaces source = .ok s → ∃ ds : List Tree.Declaration,
      tokens ds = (scan source).tokens ∧
        ∀ m ∈ s.namespaces.entries, Declaration.mapping m.1 m.2 ∈ ds.map Tree.declaration := by
  have heased := read_eased h source
  refine ⟨fun hother => heased.schema_eq fun key t _ => hother key t, fun key t hparse => ?_,
    fun s hparse => ?_⟩
  · refine ⟨fun hkey => ?_, heased.behind hparse⟩
    refine (heased.schema_eq fun other t' hmem hmissed => ?_).trans hparse
    cases hparse.symm.trans hmissed
    exact hkey hmem
  · obtain ⟨-, ds, htokens, -, rfl⟩ := derivation_of_parse hparse
    exact ⟨ds, htokens, fun m hm => mapping_mem_of_toSchema hm⟩

/-- A prefix that becomes known lets the reading go on to the next one that is not. -/
theorem parse_more_prefixes_next :
    let others : Namespaces := .ofList [("x", "u"), ("y", "v")]
    let t : Token := ⟨.identifier, some "x:a", ⟨1, 2, 1⟩⟩
    let u : Token := ⟨.identifier, some "z:c", ⟨1, 14, 13⟩⟩
    let source := "[x:a] > y:b, z:c"
    parse .empty source = .error (.parse ⟨.unknownPrefix "x", t⟩) ∧
      parse others source = .error (.parse ⟨.unknownPrefix "z", u⟩) ∧
      ∃ i j : Nat, i < j ∧ (scan source).delivered[i]? = some t ∧
        (scan source).delivered[j]? = some u := by
  intro others t u source
  have hparse : parse .empty source = .error (.parse ⟨.unknownPrefix "x", t⟩) :=
    Reading.schema_eq_error_iff.2 (by decide +kernel)
  have hothers : parse others source = .error (.parse ⟨.unknownPrefix "z", u⟩) :=
    Reading.schema_eq_error_iff.2 (by decide +kernel)
  have hkeys : Namespaces.empty.keys ⊆ others.keys := List.nil_subset _
  obtain ⟨i, hi, hbehind⟩ :=
    ((parse_more_prefixes hkeys source).2.1 "x" t hparse).2 (by decide)
  obtain ⟨j, hij, hj⟩ := hbehind _ hothers
  exact ⟨hparse, hothers, i, j, hij, hi, hj⟩

end Cnd.Document
