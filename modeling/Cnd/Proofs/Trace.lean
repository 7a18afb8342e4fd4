import Cnd.Document.Trace
import Cnd.Proofs.Halts.Document
import Cnd.Proofs.Mappings

/-!
# What the log of a reading tells

The log of a reading has one record of each declaration that is complete, in order, and at last one
of the whole document if it is parsed (`log_read`). A mapping is worth a warning if its prefix stood
for another URI in front of it. There the mappings that were given for the reading count, and the
built-in ones; but the schema has only those that the document declares.
-/

namespace Cnd.Document

/-! ## Records -/

/-- What a prefix stands for behind the mappings `before` of a document: the last of them counts,
and if there is none, what was given for the reading, and only then what is built in. -/
def bound (namespaces : Namespaces) (before : List (String × String)) (key : String) :
    Option String :=
  (before.reverse.lookup key).or ((namespaces.find? key).or (Namespaces.builtin.find? key))

/-- The record tells of the declaration, where `uri?` says what the prefixes stand for: a mapping is
worth a warning exactly if its prefix stands for another URI. -/
def Tells (uri? : String → Option String) : Declaration → Log.Event → Prop
  | .mapping key uri, r =>
    (r.level = .warning ↔ ∃ before, uri? key = some before ∧ before ≠ uri) ∧
      (r = .registered key uri ∨ ∃ before, uri? key = some before ∧ r = .remapped key before uri)
  | .nodeType d, r =>
    let t := d.toNodeType
    r = .nodeType t.name t.properties.length t.childNodes.length

/-- The records tell of the declarations, one of each, with the prefixes as they are in front of
it. -/
structure Tell (namespaces : Namespaces) (ds : List Declaration) (records : List Log.Event) :
    Prop where
  length_eq : records.length = ds.length
  tells : ∀ before d after, ds = before ++ d :: after → ∃ r, records[before.length]? = some r ∧
    Tells (bound namespaces (mappings before)) d r

theorem tells_event (known : Namespaces) (d : Declaration) :
    Tells known.find? d (d.event known) := by
  cases d with
  | nodeType d => rfl
  | mapping key uri =>
    rw [Declaration.event]
    cases hbefore : known.find? key with
    | none => exact ⟨⟨nofun, fun ⟨_, h, _⟩ => by cases hbefore.symm.trans h⟩, .inl rfl⟩
    | some before =>
      by_cases hsame : before = uri
      · simp only [if_pos hsame]
        refine ⟨⟨nofun, fun ⟨other, h, hne⟩ => ?_⟩, .inl rfl⟩
        cases hbefore.symm.trans h
        exact absurd hsame hne
      · simp only [if_neg hsame]
        exact ⟨⟨fun _ => ⟨before, hbefore, hsame⟩, fun _ => rfl⟩, .inr ⟨before, hbefore, rfl⟩⟩

theorem foldl_extend (known : Namespaces) (ds : List Declaration) :
    ds.foldl Declaration.extend known =
      (mappings ds).foldl (fun ns e => ns.insert e.1 e.2) known := by
  induction ds generalizing known with
  | nil => rfl
  | cons d ds ih =>
    rw [List.foldl_cons, ih]
    cases d <;> rfl

theorem find?_foldl_extend (namespaces : Namespaces) (ds : List Declaration) :
    (ds.foldl Declaration.extend (Namespaces.builtin.update namespaces)).find? =
      bound namespaces (mappings ds) := by
  funext key
  rw [foldl_extend, Namespaces.find?_foldl_insert, Namespaces.find?_update]
  rfl

/-- Each event is about a declaration in front of which those before it have taken effect. -/
theorem getElem?_events (known : Namespaces) (ds : List Declaration) (i : Nat) :
    (events known ds)[i]? =
      ds[i]?.map fun d => d.event ((ds.take i).foldl Declaration.extend known) := by
  induction ds generalizing known i with
  | nil => simp [events]
  | cons d ds ih =>
    cases i with
    | zero => rfl
    | succ i => exact ih (d.extend known) i

theorem length_events (known : Namespaces) (ds : List Declaration) :
    (events known ds).length = ds.length := by
  induction ds generalizing known with
  | nil => rfl
  | cons d ds ih => exact congrArg (· + 1) (ih _)

theorem logger_of_mem_events {known : Namespaces} {ds : List Declaration} {r : Log.Event}
    (h : r ∈ events known ds) : r.logger = "cndkit.parser.cnd_parser" := by
  obtain ⟨i, hi⟩ := List.mem_iff_getElem?.1 h
  rw [getElem?_events] at hi
  obtain ⟨d, -, rfl⟩ := Option.map_eq_some_iff.1 hi
  cases d with
  | nodeType d => rfl
  | mapping key uri =>
    rw [Declaration.event]
    split
    · split <;> rfl
    · rfl

theorem tell_events (namespaces : Namespaces) (ds : List Declaration) :
    Tell namespaces ds (events (Namespaces.builtin.update namespaces) ds) where
  length_eq := length_events _ ds
  tells := by
    rintro before d after rfl
    refine ⟨_, ?_, find?_foldl_extend namespaces before ▸ tells_event _ d⟩
    rw [getElem?_events, List.take_left, List.getElem?_append_right (Nat.le_refl _), Nat.sub_self]
    rfl

/-! ## The log -/

/-- **The log tells of all that was completed.** Whether a text is parsed or not, it begins with a
longest list of declarations that are complete, and the log has one record of each of them, in
order; one more, with the numbers of mappings and node types, comes behind them exactly if the text
is parsed. A mapping is recorded with a warning exactly if its prefix stood for another URI in front
of it. If the text is parsed, the declarations are all of it, and the schema has the prefixes that
they map, in the order in which these come first, each one with the URI that it is mapped to
last. -/
theorem log_read (namespaces : Namespaces) (source : String) (name : Option String) :
    ∃ (xs : List Tree.Declaration) (rest : List Token) (records : List Log.Event),
      Longest (scan source).ending (prefixesOf namespaces) (scan source).tokens xs rest ∧
      Tell namespaces (xs.map Tree.declaration) records ∧
      (∀ e, parse namespaces source = .error e →
        (read namespaces source).log name namespaces = records) ∧
      (∀ s, parse namespaces source = .ok s →
        (read namespaces source).log name namespaces =
            records ++ [.parsed name s.namespaces.size s.nodeTypes.length] ∧
          rest = [] ∧
          s.namespaces.keys = firsts ((mappings (xs.map Tree.declaration)).map (·.1)) ∧
          ∀ key, s.namespaces.find? key =
            (mappings (xs.map Tree.declaration)).reverse.lookup key) ∧
      ∀ r ∈ (read namespaces source).log name namespaces,
        r.logger = "cndkit.parser.cnd_parser" := by
  obtain ⟨xs, rest, hlongest, hdeclarations, hrest⟩ :=
    @longest_readDeclarations (scan source).ending (prefixesOf namespaces) (scan source).tokens
      fun _ => Lexical.kind_ne_eof_of_mem_scan
  have hread : (read namespaces source).declarations = xs.map Tree.declaration := hdeclarations
  refine ⟨xs, rest, events (Namespaces.builtin.update namespaces) (xs.map Tree.declaration),
    hlongest, tell_events namespaces _, fun e he => ?_, fun s hs => ?_, fun r hr => ?_⟩
  · have he : (read namespaces source).schema = .error e := he
    rw [Reading.log, hread, he, List.append_nil]
  · have hs : (read namespaces source).schema = .ok s := hs
    obtain ⟨hfailure, rfl⟩ := Reading.schema_eq_ok_iff.1 hs
    rw [hread] at hs ⊢
    refine ⟨by rw [Reading.log, hread, hs]; rfl, hrest hfailure, ?_, fun key => ?_⟩
    · rw [namespaces_toSchema, Namespaces.keys_ofList]
    · rw [namespaces_toSchema, Namespaces.find?_ofList]
  · rw [Reading.log] at hr
    rcases List.mem_append.1 hr with hevent | hlast
    · exact logger_of_mem_events hevent
    · split at hlast
      · rw [List.mem_singleton.1 hlast]
        rfl
      · cases hlast

/-- The second mapping changes the first one. The last one is not complete, but its three tokens end
the node type in front of it. -/
example : (read .empty "<a = 'u'> <a = 'v'> [a:b] - c < d =").log none .empty =
    [.registered "a" "u", .remapped "a" "u" "v", .nodeType "a:b" 1 0] := by
  decide +kernel

end Cnd.Document
