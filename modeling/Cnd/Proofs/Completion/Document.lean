import Cnd.Proofs.Completion.Parts
import Cnd.Proofs.Grammar.Document
import Cnd.Proofs.Layout.Alike

/-!
# Syntax errors are never late

Where a document is refused for a token, all that stands in front of the token can be continued to
a document that is parsed (`parse_error_prompt`). The rules are prompt, so the tokens in front go
on to those of a document; and behind a line feed the text of the others can be written, without a
change to what was read before.
-/

namespace Cnd.Document

open Lexical

/-! ## Declarations -/

/-- A reading that fails at a token has read the beginning of a document. -/
theorem extends_of_failure {ending : Except ScanError Position} {known : List String}
    {ts : List Token} {e : ParseError}
    (h : (readDeclarations ending known ts).failure = some (.parse e)) :
    ∃ done, Cut ending ts done e.token ∧ Extends (Tree.Scoped known) done := by
  -- By the number of tokens that are left. What can be written behind a declaration depends on the
  -- prefixes that are known there.
  induction hn : ts.length using Nat.strongRecOn generalizing ts known with
  | ind n ih =>
    subst hn
    cases hread : readDeclaration ⟨ending, known⟩ ts with
    | error f =>
      rw [readDeclarations_error hread] at h
      obtain rfl := Option.some.inj h
      obtain ⟨done, hcut, hextends⟩ := prompt_declaration hread
      refine ⟨done, hcut, hextends.wrap (fun d => [d]) fun d => ⟨?_, ?_⟩⟩
      · simp
      · exact fun hmet => ⟨hmet, trivial⟩
    | ok r =>
      obtain ⟨o, rest⟩ := r
      obtain ⟨d, rfl, rfl, hmet⟩ := offers_declaration.derives hread
      cases d with
      | none =>
        rw [readDeclarations_none hread] at h
        cases h
      | some d =>
        have hless := length_declaration d rest
        rw [readDeclarations_some hread hless] at h
        obtain ⟨done, hcut, hextends⟩ := ih _ hless h rfl
        refine ⟨tokens d ++ done, hcut.behind (tokens d), ?_⟩
        exact hextends.into (d :: ·) fun ds => ⟨rfl, fun hscoped => ⟨hmet, hscoped⟩⟩

/-! ## The text in front of a token -/

theorem Cut.mem_delivered {s : Scan} {done : List Token} {t : Token}
    (h : Cut s.ending s.tokens done t) : t ∈ s.delivered := by
  generalize htokens : s.tokens = ts at h
  cases h with
  | token done t rest =>
    have ht : s.tokens[done.length]? = some t := by simp [htokens]
    exact List.mem_of_getElem? (Scan.getElem?_delivered ht)
  | finish hend =>
    rw [Scan.delivered_of_ok hend]
    exact List.mem_append_right _ (List.mem_singleton_self _)

/-- In front of a token the text may be cut, and continued behind a line feed. -/
theorem Cut.boundary {source : String} {done : List Token} {t : Token}
    (h : Cut (scan source).ending (scan source).tokens done t) :
    ∃ u v, source.toList = u ++ v ∧ t.position = place u ∧
      ∀ w, Boundary (u ++ ['\n']) w done := by
  have ha : Analysis source.toList (scan source).tokens (scan source).ending := scan_eq_iff.1 rfl
  generalize (scan source).tokens = ts, (scan source).ending = ending at h ha
  cases h with
  | token done t rest =>
    obtain ⟨left, hlexes⟩ := ha.exists_lexes
    obtain ⟨u, v, hcut, hplace, hboundary⟩ := hlexes.boundary_token
    exact ⟨u, v, hcut, hplace, hboundary.feed⟩
  | finish hend =>
    subst hend
    cases ha with
    | complete hd => exact ⟨source.toList, [], (List.append_nil _).symm, rfl, hd.boundary⟩

/-- Behind a boundary the text can be written that makes the tokens in front of it a tree. -/
theorem exists_scan {α : Type} [Phrase α] {good : α → Prop} {u : List Char} {done : List Token}
    (h : ∀ w, Boundary u w done) (hextends : Extends good done) :
    ∃ cs x p, good x ∧ scan (String.ofList (u ++ cs)) = ⟨tokens x, .ok p⟩ := by
  obtain ⟨cs, -, hextends⟩ := hextends
  obtain ⟨x, us, htokens, hgood, hscan⟩ := hextends [] apart_nil (place u)
  refine ⟨cs, x, (place u).after cs, hgood, ?_⟩
  -- Behind the last token the text ends.
  have hnext := next_end (c := ⟨[], (place u).after cs⟩) .nil
  rw [(h cs).scan_eq, ← List.append_nil cs, hscan, scanFrom_end hnext rfl, htokens]
  simp [Token.atEnd]

/-! ## Parsing -/

/-- **Syntax errors are never late.** The token that a syntax error blames is one of those that
the scan delivers, at its own place. The text in front of it can be continued behind a line feed to
a text that is parsed, whatever the error is about. -/
theorem parse_error_prompt (namespaces : Namespaces) (source : String) (e : ParseError)
    (h : parse namespaces source = .error (.parse e)) :
    e.token ∈ (scan source).delivered ∧
      ∃ front behind : String, source = front ++ behind ∧
        (front.length : Int) = e.position.offset ∧
        ∃ (t : String) (s : Schema), parse namespaces (front ++ "\n" ++ t) = .ok s := by
  obtain ⟨done, hcut, hextends⟩ := extends_of_failure (Reading.schema_eq_error_iff.1 h)
  refine ⟨hcut.mem_delivered, ?_⟩
  obtain ⟨u, v, hsource, hplace, hboundary⟩ := hcut.boundary
  obtain ⟨cs, ds, p, hscoped, hscan⟩ := exists_scan hboundary hextends
  refine ⟨.ofList u, .ofList v, ?_, ?_, .ofList cs, Tree.schema ds, ?_⟩
  · rw [← String.ofList_append, ← hsource, String.ofList_toList]
  · rw [ParseError.position, hplace]
    simp [place]
  · have htext : String.ofList u ++ "\n" ++ String.ofList cs = String.ofList (u ++ ['\n'] ++ cs) := by
      rw [String.ofList_append, String.ofList_append]
    rw [htext]
    exact parse_of_derivation (congrArg Scan.ending hscan) (congrArg Scan.tokens hscan).symm hscoped

/-- A property type that there is not: the text goes on to a document in front of it. -/
theorem parse_error_prompt_type :
    ∃ e, e.text = "Unknown property type 'nonsense'" ∧ e.position = ⟨2, 6, 9⟩ ∧
      parse .empty "[a]\n- p (nonsense) // x" = .error (.parse e) ∧
      ∃ (t : String) (s : Schema), parse .empty ("[a]\n- p (" ++ "\n" ++ t) = .ok s := by
  let e : ParseError :=
    ⟨.unknownPropertyType "nonsense", ⟨.identifier, some "nonsense", ⟨2, 6, 9⟩⟩⟩
  have h : parse .empty "[a]\n- p (nonsense) // x" = .error (.parse e) :=
    Reading.schema_eq_error_iff.2 (by decide +kernel)
  obtain ⟨-, front, behind, hsource, hlength, t, s, hok⟩ := parse_error_prompt _ _ e h
  have hfront : front = "[a]\n- p (" := by
    have hsplit : "[a]\n- p (".toList ++ "nonsense) // x".toList = front.toList ++ behind.toList := by
      rw [← String.toList_append (s := front), ← hsource]
      rfl
    have hnine : "[a]\n- p (".toList.length = front.toList.length := by
      rw [@String.length_toList front]
      exact Int.ofNat.inj hlength.symm
    exact String.toList_inj.1 (List.append_inj hsplit hnine).1.symm
  rw [hfront] at hok
  exact ⟨e, by decide +kernel, rfl, h, t, s, hok⟩

end Cnd.Document
