import Cnd.Config.File
import Cnd.Proofs.Config.Values
import Cnd.Proofs.File.Rewrite

/-!
# What loading a configuration comes to

A configuration is loaded, or a failure is reported, or the failure is of another sort and is not.
The failures that are not reported are told by what is in the file: bytes that are no UTF-8, YAML
with a value that cannot be, and keys that a message would have to name but cannot
(`load_config_outcome`). The namespaces of a configuration are those of its file, in their order.
-/

namespace Cnd.Config

/-! ## Failures that escape -/

/-- It fails, and with none of the problems that a configuration can have. -/
def Escapes {α : Type} (o : Except Failure α) : Prop := ∃ e, o = .error e ∧ ∀ p, e ≠ .problem p

section Escapes

variable {α β : Type} {a : α} {o : Except Failure α} {f : α → Except Failure β}

theorem not_escapes_ok : ¬ Escapes (.ok a : Except Failure α) := nofun

theorem not_escapes_problem (p : Problem) :
    ¬ Escapes (.error (.problem p) : Except Failure α) := by
  rintro ⟨_, ⟨⟩, h⟩
  exact h p rfl

theorem escapes_bind : Escapes (o >>= f) ↔ Escapes o ∨ ∃ a, o = .ok a ∧ Escapes (f a) := by
  cases o with
  | ok a =>
    constructor
    · exact fun h => .inr ⟨a, rfl, h⟩
    · rintro (⟨_, ⟨⟩, -⟩ | ⟨_, ⟨⟩, h⟩)
      exact h
  | error e =>
    constructor
    · rintro ⟨_, ⟨⟩, h⟩
      exact .inl ⟨e, rfl, h⟩
    · rintro (⟨_, ⟨⟩, h⟩ | ⟨_, ⟨⟩, -⟩)
      exact ⟨e, rfl, h⟩

/-- What never escapes behind it has no say. -/
theorem escapes_bind_of_not (h : ∀ a, ¬ Escapes (f a)) : Escapes (o >>= f) ↔ Escapes o := by
  rw [escapes_bind]
  exact or_iff_left fun ⟨a, _, ha⟩ => h a ha

theorem escapes_map {g : α → β} : Escapes (o.map g) ↔ Escapes o := by
  cases o with
  | ok a => exact iff_of_false not_escapes_ok not_escapes_ok
  | error e =>
    constructor
    · rintro ⟨_, ⟨⟩, h⟩
      exact ⟨e, rfl, h⟩
    · rintro ⟨_, ⟨⟩, h⟩
      exact ⟨e, rfl, h⟩

theorem escapes_mapM_cons {x : α} {l : List α} : Escapes ((x :: l).mapM f) ↔
    Escapes (f x) ∨ ∃ b, f x = .ok b ∧ Escapes (l.mapM f) := by
  have hcons : ∀ b, Escapes (do let bs ← l.mapM f; return b :: bs) ↔ Escapes (l.mapM f) :=
    fun _ => escapes_bind_of_not fun _ => not_escapes_ok
  rw [List.mapM_cons, escapes_bind]
  simp only [hcons]

/-- Of a list the first entry that fails decides. -/
theorem escapes_mapM {l : List α} : Escapes (l.mapM f) ↔
    ∃ front x back bs, l = front ++ x :: back ∧ front.mapM f = .ok bs ∧ Escapes (f x) := by
  induction l with
  | nil =>
    refine iff_of_false not_escapes_ok ?_
    rintro ⟨_ | _, x, back, bs, ⟨⟩, -⟩
  | cons x l ih =>
    rw [escapes_mapM_cons, ih]
    constructor
    · rintro (hx | ⟨b, hb, front, y, back, bs, rfl, hfront, hy⟩)
      · exact ⟨[], x, l, [], rfl, rfl, hx⟩
      · have hbs : (x :: front).mapM f = .ok (b :: bs) :=
          Outcome.mapM_cons_eq_ok_iff.2 ⟨b, bs, hb, hfront, rfl⟩
        exact ⟨x :: front, y, back, b :: bs, rfl, hbs, hy⟩
    · rintro ⟨_ | ⟨z, front⟩, y, back, bs, hl, hfront, hy⟩
      · cases hl
        exact .inl hy
      · cases hl
        obtain ⟨b, bs, hb, hrest, rfl⟩ := Outcome.mapM_cons_eq_ok_iff.1 hfront
        exact .inr ⟨b, hb, front, y, back, bs, rfl, hrest, hy⟩

end Escapes

/-! ## Keys -/

/-- The key is an integer that is too long to be shown. -/
def Unshown (key : Yaml.Atom) : Prop :=
  ∃ n : Int, key = .int n ∧ Nat.pow 10 Decimal.maxDigits ≤ n.natAbs

theorem escapes_showKey {key : Yaml.Atom} : Escapes (showKey key) ↔ Unshown key := by
  cases key with
  | int n =>
    have hshow : showKey (.int n) =
        (Decimal.showInt n).mapError fun e => .value (.tooLong e) := rfl
    rw [hshow, Decimal.showInt]
    by_cases hn : Nat.pow 10 Decimal.maxDigits ≤ n.natAbs
    · rw [if_pos hn]
      exact iff_of_true ⟨_, rfl, nofun⟩ ⟨n, rfl, hn⟩
    · rw [if_neg hn]
      refine iff_of_false not_escapes_ok ?_
      rintro ⟨_, ⟨⟩, hlong⟩
      exact hn hlong
  | bool b => cases b <;> exact iff_of_false not_escapes_ok nofun
  | _ => exact iff_of_false not_escapes_ok nofun

theorem showKey_eq_ok {key : Yaml.Atom} (h : ¬ Unshown key) : ∃ s, showKey key = .ok s := by
  rw [← escapes_showKey] at h
  rw [showKey] at h ⊢
  cases hshown : key.shown with
  | ok s => exact ⟨s, rfl⟩
  | error e =>
    rw [hshown] at h
    exact absurd ⟨_, rfl, nofun⟩ h

theorem escapes_mapM_showKey {keys : List Yaml.Atom} :
    Escapes (keys.mapM showKey) ↔ ∃ key ∈ keys, Unshown key := by
  induction keys with
  | nil => exact iff_of_false not_escapes_ok nofun
  | cons key keys ih =>
    simp only [escapes_mapM_cons, escapes_showKey, ih, List.mem_cons, exists_eq_or_imp]
    by_cases hkey : Unshown key
    · exact iff_of_true (.inl hkey) (.inl hkey)
    · obtain ⟨s, hs⟩ := showKey_eq_ok hkey
      simp [hkey, hs]

/-- The keys that are no fields. -/
def unknownKeys (entries : Entries) : List Yaml.Atom :=
  (entries.map (·.1)).filter fun key => !isField key

theorem checkFields_eq (entries : Entries) : checkFields entries =
    if (unknownKeys entries).isEmpty then .ok ()
    else if !comparable (unknownKeys entries) then .error .incomparableFields
    else (((unknownKeys entries).mergeSort fun a b =>
      (a.compare? b).getD .eq != .gt).mapM showKey) >>= fun names =>
        .error (.problem (.unknownFields names)) :=
  rfl

theorem checkFields_eq_ok_iff {entries : Entries} :
    checkFields entries = .ok () ↔ unknownKeys entries = [] := by
  rw [checkFields_eq]
  by_cases hnil : unknownKeys entries = []
  · rw [hnil]
    exact iff_of_true rfl rfl
  · rw [if_neg (by simpa using hnil)]
    refine iff_of_false (fun h => ?_) hnil
    split at h
    · cases h
    · generalize List.mapM showKey _ = names at h
      cases names <;> cases h

theorem escapes_checkFields {entries : Entries} : Escapes (checkFields entries) ↔
    comparable (unknownKeys entries) = false ∨ ∃ key ∈ unknownKeys entries, Unshown key := by
  rw [checkFields_eq]
  by_cases hnil : unknownKeys entries = []
  · rw [hnil]
    exact iff_of_false not_escapes_ok (by simp [comparable])
  · rw [if_neg (by simpa using hnil)]
    cases hcomparable : comparable (unknownKeys entries) with
    | false => exact iff_of_true ⟨_, rfl, nofun⟩ (.inl rfl)
    | true =>
      -- The keys are named in their order, which has no say in which of them there are.
      rw [if_neg (by simp), escapes_bind_of_not fun _ => not_escapes_problem _,
        escapes_mapM_showKey]
      simp only [List.mem_mergeSort, Bool.true_eq_false, false_or]

/-! ## Namespaces -/

/-- An entry that maps a prefix to a URI, both of them texts. -/
def mappingEntry (e : String × String) : Yaml.Atom × Yaml.Value :=
  (.string e.1, .atom (.string e.2))

theorem readNamespace_eq_ok_iff {entry : Yaml.Atom × Yaml.Value} {e : String × String} :
    readNamespace entry = .ok e ↔ entry = mappingEntry e ∧ ':' ∉ e.1.toList := by
  fun_cases readNamespace entry with
  | case1 key uri hcolon =>
    refine iff_of_false nofun ?_
    rintro ⟨⟨⟩, hkey⟩
    exact hkey (List.contains_iff_mem.1 hcolon)
  | case2 key uri hcolon =>
    constructor
    · rintro ⟨⟩
      exact ⟨rfl, fun hkey => hcolon (List.contains_iff_mem.2 hkey)⟩
    · rintro ⟨⟨⟩, -⟩
      rfl
  | case3 key v hother =>
    refine iff_of_false (fun h => ?_) ?_
    · cases hshown : showKey key <;> rw [hshown] at h <;> cases h
    · rintro ⟨⟨⟩, -⟩
      exact hother _ _ rfl rfl

theorem escapes_readNamespace {entry : Yaml.Atom × Yaml.Value} :
    Escapes (readNamespace entry) ↔ Unshown entry.1 := by
  fun_cases readNamespace entry with
  | case1 key uri hcolon => exact iff_of_false (not_escapes_problem _) nofun
  | case2 key uri hcolon => exact iff_of_false not_escapes_ok nofun
  | case3 key v hother =>
    exact (escapes_bind_of_not fun _ => not_escapes_problem _).trans escapes_showKey

theorem mapM_readNamespace_eq_ok_iff {es : Entries} {l : List (String × String)} :
    es.mapM readNamespace = .ok l ↔ es = l.map mappingEntry ∧ ∀ e ∈ l, ':' ∉ e.1.toList := by
  induction es generalizing l with
  | nil =>
    constructor
    · rintro ⟨⟩
      exact ⟨rfl, nofun⟩
    · rintro ⟨hnil, -⟩
      rw [List.map_eq_nil_iff.1 hnil.symm]
      rfl
  | cons entry es ih =>
    simp only [Outcome.mapM_cons_eq_ok_iff, readNamespace_eq_ok_iff, ih]
    constructor
    · rintro ⟨e, l, ⟨rfl, he⟩, ⟨rfl, hl⟩, rfl⟩
      exact ⟨rfl, List.forall_mem_cons.2 ⟨he, hl⟩⟩
    · rintro ⟨hes, hl⟩
      obtain ⟨e, l, rfl, rfl, rfl⟩ := List.map_eq_cons_iff.1 hes.symm
      rw [List.forall_mem_cons] at hl
      exact ⟨e, l, ⟨rfl, hl.1⟩, ⟨rfl, hl.2⟩, rfl⟩

/-- The entries of the field with the namespaces; none if it is not there or no mapping. -/
def namespaceEntries (data : Yaml.Data) (entries : Entries) : Entries :=
  ((field? "namespaces" entries).bind data.entries?).getD []

theorem escapes_readNamespaces {data : Yaml.Data} {v? : Option Yaml.Value} :
    Escapes (readNamespaces data v?) ↔
      Escapes (((v?.bind data.entries?).getD []).mapM readNamespace) := by
  fun_cases readNamespaces data v? with
  | case1 => exact iff_of_false not_escapes_ok not_escapes_ok
  | case2 => exact iff_of_false not_escapes_ok not_escapes_ok
  | case3 v hnull entries hentries => rw [Option.bind_some, hentries, Option.getD_some, escapes_map]
  | case4 v hnull hentries =>
    rw [Option.bind_some, hentries]
    exact iff_of_false (not_escapes_problem _) not_escapes_ok

theorem nodup_of_distinct {l : List (String × String)}
    (h : Yaml.Distinct (l.map mappingEntry)) : (l.map (·.1)).Nodup := by
  rw [Yaml.Distinct, List.pairwise_map] at h
  rw [List.Nodup, List.pairwise_map]
  refine h.imp fun {e f} hsame heq => hsame ?_
  show (Yaml.Atom.string e.1).same (.string f.1)
  rw [heq]
  exact Yaml.same_string _

/-- The mappings are those of the field, in its order. -/
theorem entries_of_readNamespaces {data : Yaml.Data} {v? : Option Yaml.Value} {ns : Namespaces}
    (h : readNamespaces data v? = .ok ns)
    (hdistinct : Yaml.Distinct ((v?.bind data.entries?).getD [])) :
    (v?.bind data.entries?).getD [] = ns.entries.map mappingEntry ∧
      ∀ e ∈ ns.entries, ':' ∉ e.1.toList := by
  revert h
  fun_cases readNamespaces data v? with
  | case1 =>
    rintro ⟨⟩
    exact ⟨rfl, nofun⟩
  | case2 =>
    rintro ⟨⟩
    exact ⟨rfl, nofun⟩
  | case3 v hnull entries hentries =>
    intro h
    rw [Option.bind_some, hentries, Option.getD_some] at hdistinct ⊢
    cases hread : entries.mapM readNamespace with
    | error e =>
      rw [hread] at h
      cases h
    | ok l =>
      rw [hread] at h
      cases h
      obtain ⟨rfl, hcolon⟩ := mapM_readNamespace_eq_ok_iff.1 hread
      have hl : (Namespaces.ofList l).entries = l :=
        Namespaces.entries_foldl_insert (nodup_of_distinct hdistinct)
      rw [hl]
      exact ⟨rfl, hcolon⟩
  | case4 v hnull hentries => exact nofun

/-! ## Fields -/

theorem not_escapes_readText {name : String} {v? : Option Yaml.Value} :
    ¬ Escapes (readText name v?) := by
  fun_cases readText name v? with
  | case4 => exact not_escapes_problem _
  | _ => exact not_escapes_ok

theorem not_escapes_readBoolean {name : String} {v? : Option Yaml.Value} :
    ¬ Escapes (readBoolean name v?) := by
  fun_cases readBoolean name v? with
  | case3 => exact not_escapes_problem _
  | _ => exact not_escapes_ok

/-- The keys of a configuration are wrong in a way that cannot be put into words. -/
inductive Unspeakable (data : Yaml.Data) (entries : Entries) : Prop where
  /-- The keys that are no fields are to be listed, and have no order. -/
  | order (h : comparable (unknownKeys entries) = false)
  /-- A key that is no field is to be listed, and is too long for it. -/
  | field {key : Yaml.Atom} (hkey : key ∈ unknownKeys entries) (hlong : Unshown key)
  /-- Behind mappings of prefixes to URIs is a key that is no prefix, and is too long to be
  complained about. -/
  | namespaces {mappings : List (String × String)} {key : Yaml.Atom} {v : Yaml.Value}
      {rest : Entries} (hknown : unknownKeys entries = [])
      (hentries : namespaceEntries data entries = mappings.map mappingEntry ++ (key, v) :: rest)
      (hmappings : ∀ e ∈ mappings, ':' ∉ e.1.toList) (hlong : Unshown key)

variable {data : Yaml.Data} {entries : Entries}

/-- It escapes from the check of the keys or, if they are all fields, from the namespaces. -/
theorem escapes_ofEntries_iff : Escapes (ofEntries data entries) ↔
    Escapes (checkFields entries) ∨ checkFields entries = .ok () ∧
      Escapes ((namespaceEntries data entries).mapM readNamespace) := by
  have hnamespaces : Escapes (do
      let namespaces ← readNamespaces data (field? "namespaces" entries)
      let outputDirectory ← readText "output-directory" (field? "output-directory" entries)
      let strict ← readBoolean "strict" (field? "strict" entries)
      return ({ namespaces, outputDirectory, strict } : Config)) ↔
        Escapes ((namespaceEntries data entries).mapM readNamespace) := by
    rw [escapes_bind_of_not, escapes_readNamespaces, namespaceEntries]
    refine fun ns => (escapes_bind_of_not fun directory => ?_).not.2 not_escapes_readText
    exact (escapes_bind_of_not fun _ => not_escapes_ok).not.2 not_escapes_readBoolean
  rw [ofEntries, escapes_bind]
  simp only [hnamespaces]
  exact or_congr_right ⟨fun ⟨_, h⟩ => h, fun h => ⟨(), h⟩⟩

theorem escapes_ofEntries : Escapes (ofEntries data entries) ↔ Unspeakable data entries := by
  rw [escapes_ofEntries_iff, escapes_checkFields, checkFields_eq_ok_iff, escapes_mapM]
  simp only [mapM_readNamespace_eq_ok_iff, escapes_readNamespace]
  constructor
  · rintro ((horder | ⟨key, hkey, hlong⟩) | ⟨hknown, front, x, rest, l, hentries, ⟨rfl, hl⟩, hlong⟩)
    · exact .order horder
    · exact .field hkey hlong
    · exact .namespaces hknown hentries hl hlong
  · rintro (horder | ⟨hkey, hlong⟩ | ⟨hknown, hentries, hl, hlong⟩)
    · exact .inl (.inl horder)
    · exact .inl (.inr ⟨_, hkey, hlong⟩)
    · exact .inr ⟨hknown, _, _, _, _, hentries, ⟨rfl, hl⟩, hlong⟩

theorem exists_value_of_field {name : String} {v : Yaml.Value} {w : Yaml.Value}
    (hentries : data.entries? v = some entries) (h : field? name entries = some w) :
    ∃ n, w = data.value n := by
  cases v with
  | mapping es =>
    cases hentries
    obtain ⟨e, he, rfl⟩ := Option.map_eq_some_iff.1 h
    obtain ⟨e', -, rfl⟩ := List.mem_map.1 (List.mem_of_find?_eq_some he)
    exact ⟨e'.2, rfl⟩
  | _ => cases hentries

theorem distinct_namespaceEntries {text : String} {v : Yaml.Value}
    (hread : Yaml.Data.read text = .ok data) (hentries : data.entries? v = some entries) :
    Yaml.Distinct (namespaceEntries data entries) := by
  rw [namespaceEntries]
  cases hfield : field? "namespaces" entries with
  | none => exact .nil
  | some w =>
    obtain ⟨n, rfl⟩ := exists_value_of_field hentries hfield
    rw [Option.bind_some]
    cases hns : data.entries? (data.value n) with
    | none => exact .nil
    | some es => exact Yaml.distinct_of_read hread hns

theorem namespaces_of_ofEntries {c : Config} (h : ofEntries data entries = .ok c)
    (hdistinct : Yaml.Distinct (namespaceEntries data entries)) :
    namespaceEntries data entries = c.namespaces.entries.map mappingEntry ∧
      ∀ e ∈ c.namespaces.entries, ':' ∉ e.1.toList := by
  simp only [ofEntries, Outcome.bind_eq_ok_iff] at h
  obtain ⟨-, -, ns, hns, directory, -, strict, -, ⟨⟩⟩ := h
  exact entries_of_readNamespaces hns hdistinct

/-! ## Texts -/

/-- The text of a configuration is wrong in a way that is not reported. -/
inductive Unreported (text : String) : Prop where
  /-- It has a value that cannot be. -/
  | value {f : Yaml.Fault} (hread : Yaml.Data.read text = .error f) (hf : f ≠ .malformed)
  /-- It is a mapping whose keys are wrong, and these cannot be listed or told. -/
  | keys {data : Yaml.Data} {entries : Entries} (hread : Yaml.Data.read text = .ok data)
      (hroot : data.entries? data.rootValue = some entries) (h : Unspeakable data entries)

theorem escapes_ofYaml : Escapes (ofYaml data) ↔
    ∃ entries, data.entries? data.rootValue = some entries ∧ Unspeakable data entries := by
  simp only [← escapes_ofEntries]
  fun_cases ofYaml data with
  | case1 hnull =>
    refine iff_of_false not_escapes_ok ?_
    rintro ⟨entries, hentries, -⟩
    rw [hnull] at hentries
    cases hentries
  | case2 entries hnull hentries =>
    rw [hentries]
    constructor
    · exact fun h => ⟨entries, rfl, h⟩
    · rintro ⟨_, ⟨⟩, h⟩
      exact h
  | case3 hnull hentries =>
    refine iff_of_false (not_escapes_problem _) ?_
    rintro ⟨entries, hsome, -⟩
    cases hentries.symm.trans hsome

theorem escapes_read {text : String} : Escapes (read text) ↔ Unreported text := by
  fun_cases read text with
  | case1 data hread =>
    rw [escapes_ofYaml]
    constructor
    · rintro ⟨entries, hroot, h⟩
      exact .keys hread hroot h
    · rintro (⟨herror, -⟩ | ⟨hread', hroot, h⟩)
      · cases hread.symm.trans herror
      · cases hread.symm.trans hread'
        exact ⟨_, hroot, h⟩
  | case2 hread =>
    refine iff_of_false (not_escapes_problem _) ?_
    rintro (⟨herror, hf⟩ | ⟨hread', -⟩)
    · cases hread.symm.trans herror
      exact hf rfl
    · cases hread.symm.trans hread'
  | case3 f hf hread => exact iff_of_true ⟨_, rfl, nofun⟩ (.value hread hf)

/-- The namespaces of a configuration are those of its document, in their order. -/
theorem namespaces_of_read {text : String} {c : Config} (h : read text = .ok c) :
    ∃ data, Yaml.Data.read text = .ok data ∧
      namespaceEntries data ((data.entries? data.rootValue).getD []) =
        c.namespaces.entries.map mappingEntry ∧
      ∀ e ∈ c.namespaces.entries, ':' ∉ e.1.toList := by
  revert h
  fun_cases read text with
  | case1 data hread =>
    intro h
    refine ⟨data, hread, ?_⟩
    revert h
    fun_cases ofYaml data with
    | case1 hnull =>
      rintro ⟨⟩
      rw [hnull]
      exact ⟨rfl, nofun⟩
    | case2 entries hnull hentries =>
      intro h
      rw [hentries, Option.getD_some]
      exact namespaces_of_ofEntries h (distinct_namespaceEntries hread hentries)
    | case3 hnull hentries => exact nofun
  | case2 => exact nofun
  | case3 => exact nofun

/-! ## Files -/

/-- The failures that are reported as what is wrong with a configuration. All others are not told
apart from faults of the program. -/
def Reported : LoadFailure → Prop
  | .notFound _ | .refused _ | .content _ (.problem _) => True
  | .nulInPath | .undecodable _ | .content _ .incomparableFields | .content _ (.value _) => False

theorem load_run_eq (p : Path) (t : FileTree) :
    (load p : StateM FileTree _).run t = (ofText p (t.textOf p), t) := by
  rw [load, FileTree.bind_run (t.readText_run_eq p)]
  rfl

theorem exists_not_reported_iff {p : Path} {o : Except Failure Config} :
    (∃ e, o.mapError (LoadFailure.content p) = .error e ∧ ¬ Reported e) ↔ Escapes o := by
  cases o with
  | ok c => exact iff_of_false nofun not_escapes_ok
  | error e =>
    cases e with
    | problem q =>
      refine iff_of_false ?_ (not_escapes_problem q)
      rintro ⟨_, ⟨⟩, h⟩
      exact h trivial
    | incomparableFields => exact iff_of_true ⟨_, rfl, id⟩ ⟨_, rfl, nofun⟩
    | value f => exact iff_of_true ⟨_, rfl, id⟩ ⟨_, rfl, nofun⟩

/-- A path that leads to no file is reported. -/
theorem reported_refused (p : Path) (r : Refusal) :
    Reported (.ofReadError p (.file (.refused r))) := by
  obtain ⟨reason, q⟩ := r
  cases reason <;> trivial

/-- Bytes fail to be read as a configuration in a way that is not reported. -/
def UnreportedBytes (bytes : ByteArray) : Prop :=
  String.fromUTF8? bytes = none ∨
    ∃ s, String.fromUTF8? bytes = some s ∧ Unreported (Text.feedLines s)

theorem exists_not_reported_textOfBytes {p : Path} {bytes : ByteArray} :
    (∃ e, ofText p ((textOfBytes bytes).mapError .encoding) = .error e ∧ ¬ Reported e) ↔
      UnreportedBytes bytes := by
  rw [UnreportedBytes, textOfBytes, Text.Utf8.decode]
  cases String.fromUTF8? bytes with
  | none => exact iff_of_true ⟨_, rfl, id⟩ (.inl rfl)
  | some s =>
    refine exists_not_reported_iff.trans (escapes_read.trans ?_)
    simp

/-- **What loading a configuration comes to.** Files stay as they are. The failure is one that is
not reported exactly if there is a NUL in the path, or if the path leads to a file that is no UTF-8,
has a YAML value that cannot be, or has keys that cannot be listed or told. A path that leads to no
file is reported. Where a configuration is loaded, its namespaces map prefixes without a colon, and
are all those of the YAML mapping in its order. -/
theorem load_config_outcome (p : Path) (t : FileTree) :
    ∃ o, (load p : StateM FileTree _).run t = (o, t) ∧
      ((∃ e, o = .error e ∧ ¬ Reported e) ↔
        p.hasNul = true ∨ ∃ bytes, t.contentOf p = .ok bytes ∧ UnreportedBytes bytes) ∧
      (p.hasNul = false → ∀ reason, t.contentOf p = .error reason →
        ∃ e, o = .error e ∧ Reported e) ∧
      ∀ c, o = .ok c → ∃ text data, t.textOf p = .ok text ∧ Yaml.Data.read text = .ok data ∧
        namespaceEntries data ((data.entries? data.rootValue).getD []) =
          c.namespaces.entries.map mappingEntry ∧
        ∀ e ∈ c.namespaces.entries, ':' ∉ e.1.toList := by
  refine ⟨ofText p (t.textOf p), load_run_eq p t, ?_, ?_, ?_⟩
  · rw [FileTree.textOf]
    cases p.hasNul with
    | true => exact iff_of_true ⟨_, rfl, id⟩ (.inl rfl)
    | false =>
      cases t.contentOf p with
      | error reason =>
        refine iff_of_false ?_ (by simp)
        rintro ⟨_, ⟨⟩, h⟩
        exact h (reported_refused p _)
      | ok bytes => simpa using exists_not_reported_textOfBytes
  · intro hnul reason hreason
    rw [FileTree.textOf, hnul, hreason]
    exact ⟨_, rfl, reported_refused p _⟩
  · intro c hc
    cases htext : t.textOf p with
    | error e => rw [htext] at hc; cases hc
    | ok text =>
      rw [htext] at hc
      obtain ⟨data, hdata, hentries⟩ := namespaces_of_read (Outcome.mapError_eq_ok_iff.1 hc)
      exact ⟨text, data, rfl, hdata, hentries⟩

/-- The file is there and is a single byte, which begins no character. -/
theorem load_config_undecodable :
    let p : Path := ⟨.here, ["c.yaml"]⟩
    let t : FileTree := ⟨["home"], [(["home", "c.yaml"], .file ⟨#[0xff]⟩)]⟩
    t.contentOf p = .ok ⟨#[0xff]⟩ ∧
      ∃ e, (load p : StateM FileTree _).run t = (.error e, t) ∧ ¬ Reported e := by
  intro p t
  have hcontent : t.contentOf p = .ok ⟨#[0xff]⟩ := by rfl
  refine ⟨hcontent, ?_⟩
  have hbytes : String.fromUTF8? ⟨#[0xff]⟩ = none := by decide +kernel
  refine ⟨.undecodable ⟨0xff, 0, 1, .badStart⟩, ?_, id⟩
  have htext : textOfBytes ⟨#[0xff]⟩ = .error ⟨0xff, 0, 1, .badStart⟩ := by
    rw [textOfBytes, Text.Utf8.decode, hbytes]
    decide +kernel
  rw [load_run_eq, FileTree.textOf, hcontent]
  simp only [htext]
  rfl

example : read "1: a\nb: c" = .error .incomparableFields := by decide +kernel

example : read "strict: 2001-13-01" = .error (.value .month) := by decide +kernel

end Cnd.Config
