import Cnd.Proofs.Command.Session
import Cnd.Proofs.Config.Load
import Cnd.Proofs.Writing.LineEnd
import Cnd.Proofs.Writing.Parsed

/-!
# Formatting a file in place

A file that is formatted in place loses nothing: it holds the canonical text of the schema it was
loaded to, that text is loaded to the same schema, and formatting the file once more leaves the
tree as it is (`format_in_place`). The configuration is the same for all of this, as it is in
another file.
-/

namespace Cnd.Command

open Session

variable {a : Arguments} {s : Setup} {schema : Schema} {file : String} {q : Path}
variable {p p' : Printed} {t t' t₁ : FileTree} {new : ByteArray}

/-! ## The configuration -/

/-- Where the configuration is looked for. -/
def configPath (t : FileTree) : Option Asked → Except Crash (Option Path)
  | some .nothing => .error .noPath
  | some (.file name) =>
    if (Path.ofString name).hasNul then .error .nulInPath
    else .ok (some (.resolve ⟨.top, t.current⟩ (.ofString name)))
  | none =>
    let usual := Path.join ⟨.top, t.current⟩ (.ofString Config.fileName)
    match t.isPresent usual with
    | .ok present => .ok (if present then some usual else none)
    | .error reason => .error (.refused ⟨reason, usual⟩)

theorem runOn_configFile (asked : Option Asked) (p : Printed) (t : FileTree) :
    (configFile asked ⟨.top, t.current⟩).runOn p t = ((configPath t asked, p), t) := by
  rcases asked with _ | name | _
  · let usual := Path.join ⟨.top, t.current⟩ (.ofString Config.fileName)
    have hrun : (FileSystem.isPresent usual : StateM FileTree _).run t =
      (t.isPresent usual, t) := rfl
    rw [configFile, runOn_bind (runOn_lift hrun), configPath]
    cases t.isPresent usual <;> rfl
  · rw [configFile, configPath]
    split <;> rfl
  · rfl

theorem readConfig_eq_ok {c : Config} :
    (readConfig q).runOn p t = ((.ok (some c), p'), t') ↔
      p' = p ∧ t' = t ∧ Config.ofText q (t.textOf q) = .ok c := by
  rw [readConfig, runOn_bind (runOn_lift (Config.load_run_eq q t))]
  cases Config.ofText q (t.textOf q) with
  | ok d =>
    constructor
    · rintro ⟨⟩
      exact ⟨rfl, rfl, rfl⟩
    · rintro ⟨rfl, rfl, ⟨⟩⟩
      rfl
  | error e =>
    dsimp only
    cases Crash.ofConfig? e with
    | some crash =>
      rw [runOn_throw]
      exact iff_of_false nofun nofun
    | none =>
      rw [runOn_bind runOn_complain]
      simp

/-- The setup that a configuration file makes, or the usual one if there is no file. -/
def Arguments.Sets (a : Arguments) (t : FileTree) (s : Setup) : Option Path → Prop
  | none => s = ⟨{}, ⟨.top, t.current⟩, a.verbose⟩
  | some q => ∃ c, Config.ofText q (t.textOf q) = .ok c ∧ s = ⟨c, q.parent, a.verbose⟩

/-- Setting up prints nothing and changes nothing. -/
theorem setup_eq_ok :
    (setup a).runOn p t = ((.ok (some s), p'), t') ↔
      p' = p ∧ t' = t ∧ ∃ o, configPath t a.config = .ok o ∧ a.Sets t s o := by
  have hcurrent : (FileSystem.currentDirectory : StateM FileTree _).run t =
      (⟨.top, t.current⟩, t) := rfl
  rw [setup, runOn_bind (runOn_lift hcurrent)]
  constructor
  · intro hrun
    obtain ⟨o, p₁, t₁, hfile, hrest⟩ := of_runOn_bind hrun
    obtain ⟨⟨hpath, rfl⟩, rfl⟩ : (configPath t a.config = .ok o ∧ p = p₁) ∧ t = t₁ := by
      simpa only [runOn_configFile, Prod.mk.injEq] using hfile
    cases o with
    | none =>
      cases hrest
      exact ⟨rfl, rfl, none, hpath, rfl⟩
    | some q =>
      obtain ⟨c, p₂, t₂, hread, hpure⟩ := of_runOn_bind hrest
      cases c with
      | none => cases hpure
      | some c =>
        obtain ⟨rfl, rfl, hconfig⟩ := readConfig_eq_ok.1 hread
        cases hpure
        exact ⟨rfl, rfl, some q, hpath, c, hconfig, rfl⟩
  · rintro ⟨rfl, rfl, o, hfile, hsets⟩
    rw [runOn_bind (by rw [runOn_configFile, hfile])]
    cases o with
    | none =>
      cases hsets
      rfl
    | some q =>
      obtain ⟨c, hread, rfl⟩ := hsets
      dsimp only
      rw [runOn_bind (readConfig_eq_ok.2 ⟨rfl, rfl, hread⟩)]
      rfl

/-! ## Loading -/

/-- A file is loaded to a schema if its text is parsed as one. -/
theorem schema_ofText_eq_ok {namespaces : Namespaces} {text : Except ReadError String} :
    (Document.Loading.ofText namespaces q text).schema = .ok schema ↔
      ∃ source, text = .ok source ∧ Document.parse namespaces source = .ok schema := by
  cases text with
  | error e => simp [Document.Loading.ofText]
  | ok source =>
    rw [Document.Loading.ofText, Outcome.mapError_eq_ok_iff]
    simp [Document.parse]

theorem load_run_eq (namespaces : Namespaces) (q : Path) (t : FileTree) :
    (Document.load namespaces q : StateM FileTree _).run t =
      (.ofText namespaces q (t.textOf q), t) := by
  rw [Document.load, FileTree.bind_run (t.readText_run_eq q)]
  rfl

theorem load_run_of_parse {namespaces : Namespaces} {source : String}
    (htext : t.textOf q = .ok source) (hparse : Document.parse namespaces source = .ok schema) :
    ∃ events, (Document.load namespaces q : StateM FileTree _).run t = (⟨events, .ok schema⟩, t) :=
  ⟨_, by rw [load_run_eq, ← schema_ofText_eq_ok.2 ⟨source, htext, hparse⟩]⟩

theorem of_loadSchema (h : (loadSchema s q).runOn p t = ((.ok (some schema), p'), t')) :
    t' = t ∧ ∃ source, t.textOf q = .ok source ∧
      Document.parse s.config.namespaces source = .ok schema := by
  rw [loadSchema, runOn_bind (runOn_lift (load_run_eq _ q t))] at h
  obtain ⟨_, p₁, t₁, hnote, h⟩ := of_runOn_bind h
  obtain ⟨p₂, hnote'⟩ := runOn_note s.verbose
    (Document.Loading.ofText s.config.namespaces q (t.textOf q)).events p t
  rw [hnote'] at hnote
  cases hnote
  generalize hschema : (Document.Loading.ofText s.config.namespaces q (t.textOf q)).schema = r at h
  cases r with
  | ok found =>
    cases h
    exact ⟨rfl, schema_ofText_eq_ok.1 hschema⟩
  | error e => cases e <;> cases h

theorem loadSchema_of_parse {source : String} (htext : t.textOf q = .ok source)
    (hparse : Document.parse s.config.namespaces source = .ok schema) (p : Printed) :
    ∃ p', (loadSchema s q).runOn p t = ((.ok (some schema), p'), t) := by
  obtain ⟨p', hnote⟩ := runOn_note s.verbose
    (Document.Loading.ofText s.config.namespaces q (t.textOf q)).events p t
  refine ⟨p', ?_⟩
  rw [loadSchema, runOn_bind (runOn_lift (load_run_eq _ q t)), runOn_bind hnote,
    schema_ofText_eq_ok.2 ⟨source, htext, hparse⟩]
  rfl

/-! ## Formatting -/

/-- A file that is formatted in place was loaded, and the text of its schema was written. -/
theorem of_format (h : (format s file true).runOn p t = ((.ok 0, p'), t')) :
    ∃ source schema, t.textOf (.ofString file) = .ok source ∧
      Document.parse s.config.namespaces source = .ok schema ∧
      (FileSystem.writeText (.ofString file) schema.render : StateM FileTree _).run t =
        (.ok (), t') := by
  rw [format] at h
  obtain ⟨o, p₁, t₁, hload, hrest⟩ := of_runOn_bind h
  cases o with
  | none => cases hrest
  | some schema =>
    obtain ⟨rfl, source, htext, hparse⟩ := of_loadSchema hload
    refine ⟨source, schema, htext, hparse, ?_⟩
    dsimp only at hrest
    rw [if_pos rfl] at hrest
    obtain ⟨r, p₂, t₂, hwrite, hlast⟩ := of_runOn_bind hrest
    obtain ⟨hwrite, -⟩ := of_runOn_lift hwrite
    rcases r with (_ | refusal) | _
    · cases hlast
    · dsimp only at hlast
      rw [runOn_bind runOn_complain, runOn_pure] at hlast
      simp at hlast
    · dsimp only at hlast
      rw [printLine, runOn_bind runOn_print] at hlast
      cases hlast
      exact hwrite

theorem format_of_writeText {source : String} (htext : t.textOf (.ofString file) = .ok source)
    (hparse : Document.parse s.config.namespaces source = .ok schema)
    (hwrite : (FileSystem.writeText (.ofString file) schema.render : StateM FileTree _).run t =
      (.ok (), t')) (p : Printed) :
    ∃ p', (format s file true).runOn p t = ((.ok 0, p'), t') := by
  obtain ⟨p', hload⟩ := loadSchema_of_parse htext hparse p
  refine ⟨{ p' with out := p'.out ++ (s!"Formatted {(Path.ofString file).text}." ++ "\n") }, ?_⟩
  rw [format, runOn_bind hload]
  dsimp only
  rw [if_pos rfl, runOn_bind (runOn_lift hwrite)]
  dsimp only
  rw [printLine, runOn_bind runOn_print]
  rfl

/-! ## Whole runs -/

variable {args : List String} {report : Report}

theorem run_eq_iff :
    (run args : StateM FileTree Report).run t = (report, t') ↔
      (session args).runOn {} t = ((report.ending, report.printed), t') := by
  have hrun : (run args : StateM FileTree Report).run t =
      (⟨((session args).runOn {} t).1.2, ((session args).runOn {} t).1.1⟩,
        ((session args).runOn {} t).2) := rfl
  rw [hrun]
  obtain ⟨ending, printed, t₁, hsession⟩ :
      ∃ ending printed t₁, (session args).runOn {} t = ((ending, printed), t₁) := ⟨_, _, _, rfl⟩
  rw [hsession]
  constructor
  · rintro ⟨⟩
    rfl
  · rintro ⟨⟩
    rfl

section Task

variable {task : Task} (hread : Arguments.read args = .ok a) (htask : a.task = some task)

include hread htask

/-- A run with a task sets up and then does the task. -/
theorem session_eq :
    (session args : Session (StateM FileTree) Nat) =
      setup a >>= fun o => o.elim (return 1) task.run := by
  simp only [session, hread, Arguments.run, htask]
  refine bind_congr fun o => ?_
  cases o <;> rfl

/-- A run that ends well has set up and done its task. -/
theorem of_run (h : (run args : StateM FileTree Report).run t = (report, t'))
    (hok : report.ending = .ok 0) :
    ∃ s, (setup a).runOn {} t = ((.ok (some s), {}), t) ∧
      (task.run s).runOn {} t = ((.ok 0, report.printed), t') := by
  have hsession := run_eq_iff.1 h
  rw [hok, session_eq hread htask] at hsession
  obtain ⟨o, p₁, t₁, hsetup, hrest⟩ := of_runOn_bind hsession
  cases o with
  | none => cases hrest
  | some s =>
    obtain ⟨rfl, rfl, -⟩ := setup_eq_ok.1 hsetup
    exact ⟨s, hsetup, hrest⟩

theorem run_of_task (hsetup : (setup a).runOn {} t = ((.ok (some s), {}), t))
    (h : (task.run s).runOn {} t = ((.ok 0, p'), t')) :
    ∃ report, (run args : StateM FileTree Report).run t = (report, t') ∧
      report.ending = .ok 0 := by
  refine ⟨⟨p', .ok 0⟩, run_eq_iff.2 ?_, rfl⟩
  rw [session_eq hread htask, runOn_bind hsetup]
  exact h

end Task

/-- A setup stays as it is when another file than that of the configuration is written again. -/
theorem setup_rewrite (hfile : t.Rewrites (.ofString file) new t')
    (hother : ∀ q, configPath t a.config = .ok (some q) → t.locate q ≠ t.locate (.ofString file))
    (h : (setup a).runOn p t = ((.ok (some s), p'), t₁)) :
    (setup a).runOn p t' = ((.ok (some s), p), t') := by
  obtain ⟨-, -, o, hpath, hsets⟩ := setup_eq_ok.1 h
  have hpath' : configPath t' a.config = .ok o := by
    rw [← hpath]
    rcases a.config with _ | name | _
    · simp only [configPath, hfile.isPresent, hfile.current_eq]
    · simp only [configPath, hfile.current_eq]
    · rfl
  refine setup_eq_ok.2 ⟨rfl, rfl, o, hpath', ?_⟩
  cases o with
  | none =>
    rw [Arguments.Sets, hfile.current_eq]
    exact hsets
  | some q =>
    rw [Arguments.Sets, hfile.textOf (hother q hpath)]
    exact hsets

/-- **Formatting in place is lossless and idempotent.** When a file other than that of the
configuration has been formatted in place, it holds the text of the schema it was loaded to, in
which there are no carriage returns. With the same configuration it is loaded to the same schema,
with the mappings in the same order, and another run leaves the tree as it is. -/
theorem format_in_place (hread : Arguments.read args = .ok a)
    (htask : a.task = some (.format file true))
    (hother : ∀ q, (configFile a.config ⟨.top, t.current⟩).runOn {} t = ((.ok (some q), {}), t) →
      t.locate q ≠ t.locate (.ofString file))
    (hrun : (run args : StateM FileTree Report).run t = (report, t'))
    (hok : report.ending = .ok 0) :
    ∃ (s : Setup) (schema : Schema),
      (setup a).runOn {} t = ((.ok (some s), {}), t) ∧
      (∃ events, (Document.load s.config.namespaces (.ofString file) : StateM FileTree _).run t =
        (⟨events, .ok schema⟩, t)) ∧
      t'.contentOf (.ofString file) = .ok schema.render.toUTF8 ∧ '\r' ∉ schema.render.toList ∧
      (setup a).runOn {} t' = ((.ok (some s), {}), t') ∧
      (∃ events, (Document.load s.config.namespaces (.ofString file) : StateM FileTree _).run t' =
        (⟨events, .ok schema⟩, t')) ∧
      ∃ report', (run args : StateM FileTree Report).run t' = (report', t') ∧
        report'.ending = .ok 0 := by
  -- The run set up, loaded the file and wrote the text of its schema.
  obtain ⟨s, hsetup, hformat⟩ := of_run hread htask hrun hok
  obtain ⟨source, schema, htext, hparse, hwrite⟩ := of_format hformat
  have hcontent := FileTree.contentOf_putContent (FileTree.writeText_eq_ok.1 hwrite).2
  -- What is there now is read as it was written, and parsed as the same schema.
  have htext' := FileTree.textOf_of_writeText schema.not_mem_render hwrite
  have hparse' := parse_render_self hparse
  have hother' (q : Path) (hpath : configPath t a.config = .ok (some q)) :
      t.locate q ≠ t.locate (.ofString file) :=
    hother q (by rw [runOn_configFile, hpath])
  have hsetup' := setup_rewrite (FileTree.rewrites_of_writeText htext hwrite) hother' hsetup
  obtain ⟨p', hformat'⟩ :=
    format_of_writeText htext' hparse' (FileTree.writeText_again htext hwrite) {}
  exact ⟨s, schema, hsetup, load_run_of_parse htext hparse, hcontent, schema.not_mem_render, hsetup',
    load_run_of_parse htext' hparse', run_of_task hread htask hsetup' hformat'⟩

/-- A prefix of the configuration is used, lines end with carriage returns, and a value has one
that is escaped. -/
theorem format_in_place_escapes :
    let args := ["--config", "etc/types.yaml", "format", "types.cnd", "--write"]
    let t : FileTree :=
      ⟨["home"], [(["home", "types.cnd"], .file "[x:a]\r\n- p = 'a\\r' // c\r".toUTF8),
        (["home", "etc"], .directory),
        (["home", "etc", "types.yaml"], .file "namespaces: \x7bx: u\x7d\n".toUTF8)]⟩
    let report := ((run args : StateM FileTree Report).run t).1
    let t' := ((run args : StateM FileTree Report).run t).2
    report.ending = .ok 0 ∧ ∃ schema : Schema,
      t'.contentOf (.ofString "types.cnd") = .ok schema.render.toUTF8 ∧
        ∃ report', (run args : StateM FileTree Report).run t' = (report', t') ∧
          report'.ending = .ok 0 := by
  intro args t report t'
  let a : Arguments :=
    ⟨some (.file "etc/types.yaml"), false, some (.format "types.cnd" true)⟩
  have hread : Arguments.read args = .ok a := by decide +kernel
  have hok : report.ending = .ok 0 := by
    have hending : report.ending.toOption = some 0 := by decide +kernel
    generalize report.ending = ending at hending ⊢
    cases ending <;> cases hending
    rfl
  have hother : ∀ q,
      (configFile a.config ⟨.top, t.current⟩).runOn {} t = ((.ok (some q), {}), t) →
        t.locate q ≠ t.locate (.ofString "types.cnd") := by
    intro q hq
    rw [runOn_configFile] at hq
    cases hq
    have hconfig : t.locate (.resolve ⟨.top, ["home"]⟩ (.ofString "etc/types.yaml")) =
      .ok ["home", "etc", "types.yaml"] := rfl
    have hfile : t.locate (.ofString "types.cnd") = .ok ["home", "types.cnd"] := rfl
    intro h
    have := (hconfig.symm.trans h).trans hfile
    simp at this
  have hrun : (run args : StateM FileTree Report).run t = (report, t') := rfl
  obtain ⟨s, schema, -, -, hcontent, -, -, -, hagain⟩ := format_in_place hread rfl hother hrun hok
  exact ⟨hok, schema, hcontent, hagain⟩

end Cnd.Command
