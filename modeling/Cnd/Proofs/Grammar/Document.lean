import Cnd.Proofs.Grammar.Parts
import Cnd.Proofs.Lexical.Scan

/-!
# Parsing follows the grammar

A document is accepted exactly if its tokens derive from the grammar and every condition holds
where it stands (`parse_eq_ok_iff`). The tokens leave no choice between derivations, so the
schema is the one that the derivation denotes.
-/

namespace Cnd.Document

open Rule

/-! ## Declarations behind each other -/

theorem behindDeclaration_tokens (d : Tree.Declaration) {rest : List Token} :
    BehindDeclaration (tokens d ++ rest) := by
  refine ⟨begins_declaration.ahead d, ?_⟩
  rcases d with ⟨angle, key, equals, uri, close⟩ | t
  · rintro _ ⟨⟩ -
    exact ⟨equals.1, rfl, equals.2⟩
  · exact ((Begins.symbol .leftBracket).prod.ahead t).onlyMapping (by decide)

theorem behindDeclaration_nil : BehindDeclaration [] := ⟨nofun, nofun⟩

/-- The grammar is unambiguous: no tokens have two derivations. -/
theorem tokens_injective {ds ds' : List Tree.Declaration} (h : tokens ds = tokens ds') :
    ds = ds' := by
  refine (offers_declaration.determined_list behindDeclaration_tokens (r := []) (s := [])
    ⟨behindDeclaration_nil, rfl⟩ ⟨behindDeclaration_nil, rfl⟩ ?_).1
  rw [h]

/-! ## Reading all declarations -/

section Declarations

variable {ending : Except ScanError Position} {known : List String} {ts rest : List Token}

theorem readDeclarations_error {e : Failure}
    (h : readDeclaration ⟨ending, known⟩ ts = .error e) :
    readDeclarations ending known ts = ⟨[], some e⟩ := by
  rw [readDeclarations, h]

theorem readDeclarations_none (h : readDeclaration ⟨ending, known⟩ ts = .ok (none, rest)) :
    readDeclarations ending known ts = ⟨[], none⟩ := by
  rw [readDeclarations, h]

theorem readDeclarations_some {d : Declaration}
    (h : readDeclaration ⟨ending, known⟩ ts = .ok (some d, rest))
    (hlength : rest.length < ts.length) :
    readDeclarations ending known ts =
      ⟨d :: (readDeclarations ending (knownBehind known d) rest).declarations,
        (readDeclarations ending (knownBehind known d) rest).failure⟩ := by
  rw [readDeclarations, h]
  simp only [dif_pos hlength]

theorem length_declaration (d : Tree.Declaration) (rest : List Token) :
    rest.length < (tokens d ++ rest).length := by
  have := List.length_pos_iff.2 (offers_declaration.nonempty d)
  simpa using this

/-- The outcome on the tokens of a document: all declarations if every condition is met where
it stands, and an error about one of them if not. -/
theorem readDeclarations_tokens {p : Position} (hend : ending = .ok p)
    (ds : List Tree.Declaration) :
    (Tree.Scoped known ds ∧
        readDeclarations ending known (tokens ds) = ⟨ds.map Tree.declaration, none⟩) ∨
      (¬ Tree.Scoped known ds ∧ ∃ e, e.IsRefusal ∧
        (readDeclarations ending known (tokens ds)).failure = some (.parse e)) := by
  induction ds generalizing known with
  | nil =>
    exact .inl ⟨trivial, readDeclarations_none (offers_declaration.stops hend rfl)⟩
  | cons d ds ih =>
    -- Behind the first declaration another one begins, or the text ends.
    have hfollow : BehindDeclaration (tokens ds ++ []) :=
      follow_tokens behindDeclaration_tokens ds behindDeclaration_nil
    rw [List.append_nil] at hfollow
    have hd := @Offers.settles _ _ _ _ _ _ _ offers_declaration ⟨ending, known⟩ _ _ d hend hfollow
    rw [tokens_cons]
    generalize hread : readDeclaration ⟨ending, known⟩ (tokens d ++ tokens ds) = o at hd
    cases hd with
    | accepted hmet =>
      rw [readDeclarations_some hread (length_declaration d _)]
      rcases @ih (knownBehind known (Tree.declaration d)) with
        ⟨hscoped, hok⟩ | ⟨hscoped, e, he, herr⟩
      · exact .inl ⟨⟨hmet, hscoped⟩, by rw [hok]; rfl⟩
      · exact .inr ⟨fun h => hscoped h.2, e, he, herr⟩
    | @refused e hmet he =>
      rw [readDeclarations_error hread]
      exact .inr ⟨fun h => hmet h.1, e, he, rfl⟩

/-- Only at the end of the text there is no declaration. -/
theorem end_of_readDeclaration (hts : ∀ t ∈ ts, t.kind ≠ .eof)
    (h : readDeclaration ⟨ending, known⟩ ts = .ok (none, rest)) :
    ts = [] ∧ ∃ p, ending = .ok p := by
  obtain ⟨t, mid, hpeek, hmid⟩ := of_bind_ok h
  obtain ⟨rfl, hget | ⟨hget, p, hp, -⟩⟩ := of_peek_ok hpeek
  · rw [if_neg (hts t (List.mem_of_getElem? hget))] at hmid
    split at hmid
    · obtain ⟨m, -, hm⟩ := of_map_ok hmid
      cases hm
    · obtain ⟨t, -, ht⟩ := of_map_ok (g := some ∘ Declaration.nodeType) hmid
      cases ht
  · exact ⟨by simpa using hget, p, hp⟩

/-- Declarations that are read to the end of the text are a document whose conditions are met. -/
theorem readDeclarations_derives (hts : ∀ t ∈ ts, t.kind ≠ .eof)
    (h : (readDeclarations ending known ts).failure = none) :
    (∃ p, ending = .ok p) ∧ ∃ ds : List Tree.Declaration, tokens ds = ts ∧
      Tree.Scoped known ds ∧
        (readDeclarations ending known ts).declarations = ds.map Tree.declaration := by
  -- By the number of tokens that are left. The known prefixes change from one declaration to
  -- the next.
  induction hn : ts.length using Nat.strongRecOn generalizing ts known with
  | ind n ih =>
    subst hn
    cases hread : readDeclaration ⟨ending, known⟩ ts with
    | error e =>
      rw [readDeclarations_error hread] at h
      cases h
    | ok r =>
      obtain ⟨o, rest⟩ := r
      obtain ⟨d, rfl, rfl, hmet⟩ := offers_declaration.derives hread
      cases d with
      | none =>
        obtain ⟨hnil, hend⟩ := end_of_readDeclaration hts hread
        rw [readDeclarations_none hread]
        exact ⟨hend, [], hnil.symm, trivial, rfl⟩
      | some d =>
        have hless := length_declaration d rest
        rw [readDeclarations_some hread hless] at h ⊢
        have hrest : ∀ t ∈ rest, t.kind ≠ .eof :=
          fun t ht => hts t (List.mem_append_right _ ht)
        obtain ⟨hend, ds, rfl, hscoped, hds⟩ := ih _ hless hrest h rfl
        exact ⟨hend, d :: ds, rfl, ⟨hmet, hscoped⟩, by rw [hds]; rfl⟩

end Declarations

/-! ## The grammar of documents -/

/-- The prefixes that the names of a document may use from its beginning. -/
def prefixesOf (namespaces : Namespaces) : List String :=
  Namespaces.builtin.keys ++ namespaces.keys

theorem Reading.schema_eq_ok_iff {r : Reading} {s : Schema} :
    r.schema = .ok s ↔ r.failure = none ∧ toSchema r.declarations = s := by
  rw [Reading.schema]
  cases r.failure <;> simp

theorem Reading.schema_eq_error_iff {r : Reading} {e : Failure} :
    r.schema = .error e ↔ r.failure = some e := by
  rw [Reading.schema]
  cases r.failure <;> simp

/-- A document with a derivation is parsed, or refused for a name or a list of operators. -/
theorem parse_tokens {namespaces : Namespaces} {source : String} {p : Position}
    {ds : List Tree.Declaration} (hscan : scan source = ⟨tokens ds, .ok p⟩) :
    (Tree.Scoped (prefixesOf namespaces) ds ∧
        parse namespaces source = .ok (Tree.schema ds)) ∨
      (¬ Tree.Scoped (prefixesOf namespaces) ds ∧ ∃ e, e.IsRefusal ∧
        parse namespaces source = .error (.parse e)) := by
  have hread : read namespaces source =
      readDeclarations (.ok p) (prefixesOf namespaces) (tokens ds) := by
    rw [read, hscan, prefixesOf]
  rw [parse, hread]
  rcases readDeclarations_tokens rfl ds with ⟨hscoped, hok⟩ | ⟨hscoped, e, he, herr⟩
  · refine .inl ⟨hscoped, ?_⟩
    rw [hok]
    rfl
  · refine .inr ⟨hscoped, e, he, ?_⟩
    rw [Reading.schema, herr]

theorem derivation_of_parse {namespaces : Namespaces} {source : String} {s : Schema}
    (h : parse namespaces source = .ok s) :
    (∃ p, (scan source).ending = .ok p) ∧
      ∃ ds : List Tree.Declaration, tokens ds = (scan source).tokens ∧
        Tree.Scoped (prefixesOf namespaces) ds ∧ Tree.schema ds = s := by
  obtain ⟨hfailure, rfl⟩ := Reading.schema_eq_ok_iff.1 h
  obtain ⟨hend, ds, htokens, hscoped, hds⟩ :=
    readDeclarations_derives (fun _ => Lexical.kind_ne_eof_of_mem_scan) hfailure
  exact ⟨hend, ds, htokens, hscoped, by rw [Tree.schema, ← hds]; rfl⟩

/-- A text whose tokens derive from the grammar is parsed, if the conditions are met. -/
theorem parse_of_derivation {namespaces : Namespaces} {source : String} {p : Position}
    {ds : List Tree.Declaration} (hend : (scan source).ending = .ok p)
    (htokens : tokens ds = (scan source).tokens) (hscoped : Tree.Scoped (prefixesOf namespaces) ds) :
    parse namespaces source = .ok (Tree.schema ds) := by
  have hscan : scan source = ⟨tokens ds, .ok p⟩ := by rw [htokens, ← hend]
  rcases parse_tokens hscan with ⟨-, hok⟩ | ⟨hnot, -⟩
  · exact hok
  · exact absurd hscoped hnot

/-- **The parser accepts exactly its grammar.** A text is parsed if it can be scanned to its
end, its tokens derive from the grammar, and every name and every list of operators is good
where it stands; the schema is what the derivation denotes. There is never more than one
derivation. -/
theorem parse_eq_ok_iff (namespaces : Namespaces) (source : String) (s : Schema) :
    (parse namespaces source = .ok s ↔
      (∃ p, (scan source).ending = .ok p) ∧
        ∃ ds : List Tree.Declaration, tokens ds = (scan source).tokens ∧
          Tree.Scoped (prefixesOf namespaces) ds ∧ Tree.schema ds = s) ∧
      ∀ ds ds' : List Tree.Declaration, tokens ds = tokens ds' → ds = ds' := by
  refine ⟨⟨derivation_of_parse, ?_⟩, fun _ _ => tokens_injective⟩
  rintro ⟨⟨p, hend⟩, ds, htokens, hscoped, rfl⟩
  exact parse_of_derivation hend htokens hscoped

end Cnd.Document
