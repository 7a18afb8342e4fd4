import Mathlib.Data.List.TakeWhile
import Cnd.Proofs.Command.Effects

/-!
# Checking many files is checking each alone

What a check prints about a file, and whether the file passes, hangs on the file and the
configuration alone (`Setup.lines`, `Setup.accepts`): no file leaves anything behind that the next
one could meet. So the output of a run over many files is made of the outputs of the runs over each
of them, and its code and the count in its last line tell how many of those fail (`check_each`).
A session is followed by what it prints on the standard output (`Session.Prints`).
-/

namespace Cnd.Command

namespace Session

variable {α β : Type} {x : Session (StateM FileTree) α} {f : α → Session (StateM FileTree) β}
variable {a : α} {b : β} {s out out' : String} {t : FileTree}

/-! ## Sessions that only print -/

/-- On the tree, which it leaves as it is, the session comes to `a` and prints `out` on the standard
output. What was printed before makes no difference. -/
def Prints (x : Session (StateM FileTree) α) (t : FileTree) (a : α) (out : String) : Prop :=
  ∀ p, ∃ err, x.runOn p t = ((.ok a, ⟨p.out ++ out, p.err ++ err⟩), t)

theorem Prints.pure (a : α) : Prints (pure a) t a "" := by
  intro p
  exact ⟨"", by simp⟩

theorem Prints.bind (hx : x.Prints t a out) (hf : (f a).Prints t b out') :
    (x >>= f).Prints t b (out ++ out') := by
  intro p
  obtain ⟨err, hrun⟩ := hx p
  obtain ⟨err', hrest⟩ := hf ⟨p.out ++ out, p.err ++ err⟩
  refine ⟨err ++ err', ?_⟩
  rw [runOn_bind hrun, hrest, String.append_assoc, String.append_assoc]

/-- A step that prints nothing is passed over. -/
theorem Prints.bind_quiet (hx : x.Prints t a "") (hf : (f a).Prints t b out) :
    (x >>= f).Prints t b out := by
  have hboth := hx.bind hf
  rwa [String.empty_append] at hboth

/-- A last step that prints nothing adds nothing. -/
theorem Prints.bind_last (hx : x.Prints t a out) (hf : (f a).Prints t b "") :
    (x >>= f).Prints t b out := by
  have hboth := hx.bind hf
  rwa [String.append_empty] at hboth

theorem prints_print (s : String) (t : FileTree) : Prints (print s) t () s := by
  intro p
  exact ⟨"", by simp⟩

theorem prints_complain (s : String) (t : FileTree) : Prints (complain s) t () "" := by
  intro p
  exact ⟨s ++ "\n", by simp [String.append_assoc]⟩

/-- An operation on files prints nothing. -/
theorem prints_lift {y : StateM FileTree α} (h : y.run t = (a, t)) : Prints (liftM y) t a "" := by
  intro p
  exact ⟨"", by simp [runOn_lift h]⟩

theorem Prints.forM {items : List β} {g : β → Session (StateM FileTree) Unit} {w : β → String}
    (h : ∀ b ∈ items, (g b).Prints t () (w b)) :
    (items.forM g).Prints t () (String.join (items.map w)) := by
  induction items with
  | nil => exact .pure ()
  | cons b rest ih =>
    obtain ⟨hfirst, hrest⟩ := List.forall_mem_cons.1 h
    rw [List.map_cons, String.join_cons]
    exact hfirst.bind (ih hrest)

theorem Prints.mapM {items : List β} {g : β → Session (StateM FileTree) α} {v : β → α}
    {w : β → String} (h : ∀ b ∈ items, (g b).Prints t (v b) (w b)) :
    (items.mapM g).Prints t (items.map v) (String.join (items.map w)) := by
  induction items with
  | nil => exact .pure []
  | cons b rest ih =>
    obtain ⟨hfirst, hrest⟩ := List.forall_mem_cons.1 h
    rw [List.mapM_cons, List.map_cons, List.map_cons, String.join_cons]
    refine hfirst.bind ?_
    exact (ih hrest).bind_last (.pure _)

/-- The log goes to the standard error. -/
theorem prints_note (verbose : Bool) (events : List Log.Event) (t : FileTree) :
    Prints (note verbose events) t () "" := by
  have hnone (l : List Log.Event) : String.join (l.map fun _ => "") = "" := by
    induction l with
    | nil => rfl
    | cons e l ih => rw [List.map_cons, String.join_cons, ih, String.append_empty]
  rw [note, ← hnone (events.filter fun e => verbose || e.level = .warning)]
  exact .forM fun e _ => prints_complain e.line t

end Session

open Session

variable {a : Arguments} {s : Setup} {file : String} {files : List String} {t : FileTree}
variable {o : Option Path} {args : List String}

/-! ## One file -/

/-- Does the file pass when it is checked? -/
def Setup.accepts (s : Setup) (t : FileTree) (file : String) : Bool :=
  (s.schema? t file).any s.passes

/-- What is printed about a file. -/
def Setup.lines (s : Setup) (t : FileTree) (file : String) : List String :=
  match s.schema? t file with
  | none => [Colour.red.paint s!"FAIL  {(Path.ofString file).text}"]
  | some schema => s.verdict (.ofString file) schema

/-- The lines about a file as they are printed. -/
def Setup.output (s : Setup) (t : FileTree) (file : String) : String :=
  String.join ((s.lines t file).map (· ++ "\n"))

/-- A file passes if it loads to a schema without errors, and without warnings where these
count. -/
theorem Setup.accepts_iff : s.accepts t file ↔ ∃ events schema,
    (Document.load s.config.namespaces (.ofString file) : StateM FileTree _).run t =
      (⟨events, .ok schema⟩, t) ∧
    schema.errors = [] ∧ (s.config.strict = false ∨ schema.warnings = []) := by
  have hpasses (schema : Schema) : s.passes schema ↔
      schema.errors = [] ∧ (s.config.strict = false ∨ schema.warnings = []) := by
    simp [passes, Schema.isValid]
  rw [accepts, Option.any_eq_true]
  constructor
  · rintro ⟨schema, hschema, hpass⟩
    obtain ⟨events, hload⟩ := schema?_eq_some_iff.1 hschema
    exact ⟨events, schema, hload, (hpasses schema).1 hpass⟩
  · rintro ⟨events, schema, hload, hpass⟩
    exact ⟨schema, schema?_eq_some_iff.2 ⟨events, hload⟩, (hpasses schema).2 hpass⟩

theorem prints_loadSchema (hfile : (Path.ofString file).hasNul = false) :
    (loadSchema s (.ofString file)).Prints t (s.schema? t file) "" := by
  have hload := load_run_eq s.config.namespaces (.ofString file) t
  have htried : (Document.Loading.ofText s.config.namespaces (.ofString file)
      (t.textOf (.ofString file))).schema ≠ .error .nulInPath :=
    schema_ofText_ne_nulInPath (FileTree.textOf_ne_nulInPath hfile)
  rw [loadSchema, Setup.schema?]
  generalize Document.Loading.ofText s.config.namespaces (.ofString file)
    (t.textOf (.ofString file)) = loading at *
  refine (prints_lift hload).bind_quiet ((prints_note _ _ t).bind_quiet ?_)
  obtain ⟨events, loaded⟩ := loading
  cases loaded with
  | ok schema => exact .pure _
  | error e =>
    cases e with
    | nulInPath => exact absurd rfl htried
    | _ => exact (prints_complain _ t).bind_quiet (.pure _)

theorem prints_lines (lines : List String) (t : FileTree) :
    Prints (lines.forM printLine) t () (String.join (lines.map (· ++ "\n"))) :=
  .forM fun line _ => prints_print (line ++ "\n") t

theorem prints_checkFile (hfile : (Path.ofString file).hasNul = false) :
    (checkFile s file).Prints t (s.accepts t file) (s.output t file) := by
  have hload : (loadSchema s (.ofString file)).Prints t (s.schema? t file) "" :=
    prints_loadSchema hfile
  rw [checkFile, Setup.accepts, Setup.output, Setup.lines]
  cases hschema : s.schema? t file with
  | none =>
    rw [hschema] at hload
    refine hload.bind_quiet ?_
    rw [List.map_singleton, String.join_cons, String.join_nil, String.append_empty]
    exact (prints_print _ t).bind_last (.pure false)
  | some schema =>
    rw [hschema] at hload
    refine hload.bind_quiet ?_
    exact (prints_lines _ t).bind_last (.pure (s.passes schema))

/-! ## Many files -/

/-- How many of the files fail. -/
def Setup.failures (s : Setup) (t : FileTree) (files : List String) : Nat :=
  files.countP fun file => !s.accepts t file

/-- The line about files that fail, if there are any. -/
def summary (failed total : Nat) : String :=
  if failed = 0 then "" else s!"\n{failed} of {total} file(s) failed." ++ "\n"

/-- A check prints what there is to say about each file, and ends with the line that counts those
that fail. -/
theorem runOn_check (hfiles : ∀ file ∈ files, (Path.ofString file).hasNul = false) (p : Printed) :
    ∃ err, (check s files).runOn p t =
      ((.ok (if s.failures t files = 0 then 0 else 1),
        ⟨p.out ++ String.join (files.map (s.output t)),
          p.err ++ (err ++ summary (s.failures t files) files.length)⟩), t) := by
  obtain ⟨err, hrun⟩ := Prints.mapM (fun file hfile => prints_checkFile (hfiles file hfile)) p
  have hfailed : (files.map (s.accepts t)).countP (!·) = s.failures t files := by
    rw [Setup.failures, List.countP_map]
    rfl
  refine ⟨err, ?_⟩
  rw [check, runOn_bind hrun]
  dsimp only
  rw [hfailed, summary]
  by_cases hzero : s.failures t files = 0
  · rw [if_pos hzero, if_pos hzero, if_pos hzero, String.append_empty]
    rfl
  · rw [if_neg hzero, if_neg hzero, if_neg hzero, runOn_bind runOn_complain, runOn_pure]
    simp [String.append_assoc]

theorem run_check (hread : Arguments.read args = .ok a) (htask : a.task = some (.check files))
    (hpath : configPath t a.config = .ok o) (hsets : a.Sets t s o)
    (hfiles : ∀ file ∈ files, (Path.ofString file).hasNul = false) :
    ∃ err, (run args : StateM FileTree Report).run t =
      (⟨⟨String.join (files.map (s.output t)),
          err ++ summary (s.failures t files) files.length⟩,
        .ok (if s.failures t files = 0 then 0 else 1)⟩, t) := by
  have hsetup := setup_eq_ok (a := a) (p := {}) |>.2 ⟨rfl, rfl, o, hpath, hsets⟩
  obtain ⟨err, hrun⟩ := runOn_check (s := s) (t := t) hfiles {}
  refine ⟨err, run_eq_iff.2 ?_⟩
  rw [session_eq hread htask, runOn_bind hsetup]
  show (check s files).runOn {} t = _
  simpa using hrun

/-- A run over one file says what there is to say about it, and ends with 0 if it passes. -/
theorem run_check_single (hread : Arguments.read args = .ok a)
    (htask : a.task = some (.check [file])) (hpath : configPath t a.config = .ok o)
    (hsets : a.Sets t s o) (hfile : (Path.ofString file).hasNul = false) :
    ((run args : StateM FileTree Report).run t).1.printed.out = s.output t file ∧
      ((run args : StateM FileTree Report).run t).1.ending =
        .ok (if s.accepts t file then 0 else 1) := by
  obtain ⟨err, hrun⟩ := run_check hread htask hpath hsets (List.forall_mem_singleton.2 hfile)
  rw [hrun]
  refine ⟨?_, ?_⟩
  · rw [List.map_singleton, String.join_cons, String.join_nil, String.append_empty]
  · cases h : s.accepts t file with
    | true => simp [Setup.failures, h]
    | false => simp [Setup.failures, h]

/-! ## Command lines -/

/-- Arguments that do not begin with a dash are operands. -/
theorem classify_plain (f : Form) (hplain : ∀ file ∈ files, file.toList.head? ≠ some '-') :
    f.classify files = .ok (files.map fun file => ⟨file, .operand⟩) := by
  induction files with
  | nil => rfl
  | cons file rest ih =>
    obtain ⟨hfile, hrest⟩ := List.forall_mem_cons.1 hplain
    have hlook : f.look file = .ok .operand := by
      unfold Form.look
      split
      · rename_i h
        rw [h] at hfile
        exact absurd rfl hfile
      · rfl
    have hmark : file = "--" → False := by
      rintro rfl
      exact hfile rfl
    rw [Form.classify.eq_3 _ _ _ hmark, hlook, ih hrest]
    rfl

/-- Operands are taken all together, as many as there are. -/
theorem length_plain {form : Operands} (hform : form = .several ∨ form = .command) (file : String)
    (rest : List String) :
    form.length ((file :: rest).map fun file => ⟨file, .operand⟩) = rest.length + 1 := by
  have hall : (rest.map fun file => (⟨file, .operand⟩ : Argument)).takeWhile
      (fun a => a.look = .operand || a.look = .mark) =
        rest.map fun file => ⟨file, .operand⟩ := by
    rw [List.takeWhile_eq_self_iff]
    simp
  rcases hform with rfl | rfl
  · simp [Operands.length, hall, Nat.add_comm]
  · simp [Operands.length, Nat.add_comm]

/-- A form that takes several operands, or a subcommand and all behind it, takes them all. -/
theorem read_plain {f : Form} (hform : f.operands = .several ∨ f.operands = .command)
    (hfiles : files ≠ []) (hplain : ∀ file ∈ files, file.toList.head? ≠ some '-') :
    f.read files = .ok { operands := some files } := by
  obtain ⟨file, rest, rfl⟩ := List.exists_cons_of_ne_nil hfiles
  have hselect : f.operands.select (file :: rest) = file :: rest := by
    have hmark : "--" ∉ file :: rest := fun hmem => hplain _ hmem rfl
    rcases hform with h | h
    · rw [h, Operands.select, List.erase_of_not_mem hmark]
    · rw [h, Operands.select]
  have hfill : f.fill true ((file :: rest).map fun file => ⟨file, .operand⟩) =
      .ok { operands := some (file :: rest) } := by
    have hlength := length_plain hform file rest
    rw [List.map_cons] at hlength ⊢
    rw [Form.fill.eq_4 _ _ _ _ (by simp) (by simp), if_pos rfl, hlength]
    have hrest : (rest.map fun file => (⟨file, .operand⟩ : Argument)).length = rest.length :=
      List.length_map _
    have htext : (rest.map fun file => (⟨file, .operand⟩ : Argument)).map (·.text) = rest := by
      rw [List.map_map]
      exact List.map_id rest
    simp only [List.drop_of_length_le (Nat.le_of_eq hrest),
      List.take_of_length_le (Nat.le_of_eq hrest), List.map_cons, htext, hselect, Form.fill.eq_1]
    rfl
  rw [Form.read, classify_plain f hplain]
  simp only [Except.mapError, hfill, bind, Except.bind]
  rfl

/-- A check of files whose names do not begin with a dash. -/
theorem read_check (hfiles : files ≠ [])
    (hplain : ∀ file ∈ files, file.toList.head? ≠ some '-') :
    Arguments.read ("check" :: files) = .ok ⟨none, false, some (.check files)⟩ := by
  have hmain : Form.main.read ("check" :: files) = .ok { operands := some ("check" :: files) } :=
    read_plain (.inr rfl) (List.cons_ne_nil _ _)
      (List.forall_mem_cons.2 ⟨by decide, hplain⟩)
  have hcheck : Form.check.read files = .ok { operands := some files } :=
    read_plain (.inl rfl) hfiles hplain
  have htask : readTask ("check" :: files) = .ok (some (.check files), []) := by
    rw [readTask, show Subcommand.ofName? "check" = some .check from by decide]
    simp only [Form.ofSubcommand, hcheck, bind, Except.bind]
    rfl
  rw [Arguments.read, hmain]
  simp only [bind, Except.bind, Option.getD_some, htask]
  rfl

/-- **Checking many files is checking each alone.** The output of a run over files is made of the
outputs of the runs over each of them; it ends with 0 if all of those do, and otherwise with 1 and a
line that counts those that end with 1. A file passes alone if it loads to a schema without errors,
and without warnings where these count. -/
theorem check_each {single : String → List String} (hread : Arguments.read args = .ok a)
    (htask : a.task = some (.check files))
    (hsingle : ∀ file ∈ files,
      Arguments.read (single file) = .ok { a with task := some (.check [file]) })
    (hnul : ∀ file ∈ files, '\x00' ∉ file.toList)
    (hpath : configPath t a.config = .ok o) (hsets : a.Sets t s o) :
    let report (args : List String) := ((run args : StateM FileTree Report).run t).1
    (report args).printed.out =
        String.join (files.map fun file => (report (single file)).printed.out) ∧
      ((report args).ending = .ok 0 ↔ ∀ file ∈ files, (report (single file)).ending = .ok 0) ∧
      ((report args).ending ≠ .ok 0 → (report args).ending = .ok 1 ∧
        ∃ before k, (report args).printed.err =
            before ++ s!"\n{k} of {files.length} file(s) failed." ++ "\n" ∧
          k = files.countP fun file => (report (single file)).ending = .ok 1) ∧
      ∀ file ∈ files,
        ((report (single file)).ending = .ok 0 ∨ (report (single file)).ending = .ok 1) ∧
        ((report (single file)).ending = .ok 0 ↔ ∃ events schema,
          (Document.load s.config.namespaces (.ofString file) : StateM FileTree _).run t =
            (⟨events, .ok schema⟩, t) ∧
          schema.errors = [] ∧ (s.config.strict = false ∨ schema.warnings = [])) := by
  intro report
  have hfiles : ∀ file ∈ files, (Path.ofString file).hasNul = false := by
    intro file hfile
    exact Path.hasNul_ofString (hnul file hfile)
  have hone : ∀ file ∈ files, (report (single file)).printed.out = s.output t file ∧
      (report (single file)).ending = .ok (if s.accepts t file then 0 else 1) := by
    intro file hfile
    exact run_check_single (hsingle file hfile) rfl hpath hsets (hfiles file hfile)
  have hzero : ∀ file ∈ files, (report (single file)).ending = .ok 0 ↔ s.accepts t file := by
    intro file hfile
    rw [(hone file hfile).2]
    cases s.accepts t file <;> simp
  have hfailed : ∀ file ∈ files,
      (report (single file)).ending = .ok 1 ↔ s.accepts t file = false := by
    intro file hfile
    rw [(hone file hfile).2]
    cases s.accepts t file <;> simp
  obtain ⟨err, hrun⟩ := run_check hread htask hpath hsets hfiles
  have hall : s.failures t files = 0 ↔ ∀ file ∈ files, (report (single file)).ending = .ok 0 := by
    rw [Setup.failures, List.countP_eq_zero]
    refine forall₂_congr fun file hfile => ?_
    rw [hzero file hfile]
    simp
  have hcount : s.failures t files =
      files.countP fun file => (report (single file)).ending = .ok 1 := by
    refine List.countP_congr fun file hfile => ?_
    simp [hfailed file hfile]
  have hrun' : report args = _ := congrArg Prod.fst hrun
  refine ⟨?_, ?_, ?_, ?_⟩
  · rw [hrun']
    exact congrArg String.join (List.map_congr_left fun file hfile => ((hone file hfile).1).symm)
  · rw [hrun', ← hall]
    by_cases h : s.failures t files = 0 <;> simp [h]
  · intro hne
    have h : s.failures t files ≠ 0 := by
      intro h
      rw [hrun', if_pos h] at hne
      exact hne rfl
    rw [hrun', if_neg h, summary, if_neg h]
    exact ⟨rfl, err, _, (String.append_assoc ..).symm, hcount⟩
  · intro file hfile
    refine ⟨?_, (hzero file hfile).trans Setup.accepts_iff⟩
    rw [(hone file hfile).2]
    cases s.accepts t file <;> simp

/-- Warnings count: one file has a warning, one is not there, and one is checked twice. -/
theorem check_each_strict :
    let files := ["w.cnd", "ok.cnd", "no.cnd", "w.cnd"]
    let t : FileTree :=
      ⟨["home"], [(["home", "w.cnd"], .file "[a] primaryitem x".toUTF8),
        (["home", "ok.cnd"], .file "// nothing yet".toUTF8),
        (["home", ".cndkit.yaml"], .file "strict: true\n".toUTF8)]⟩
    let report (args : List String) := ((run args : StateM FileTree Report).run t).1
    (∀ file ∈ files, '\x00' ∉ file.toList) ∧
      (report ("check" :: files)).printed.out =
        String.join (files.map fun file => (report ["check", file]).printed.out) ∧
      (report ["check", "ok.cnd"]).ending = .ok 0 ∧
      (report ("check" :: files)).ending = .ok 1 ∧
      ∃ before, (report ("check" :: files)).printed.err =
        before ++ s!"\n{3} of {4} file(s) failed." ++ "\n" := by
  intro files t report
  let a : Arguments := ⟨none, false, some (.check files)⟩
  let q : Path := ⟨.top, ["home", ".cndkit.yaml"]⟩
  let s : Setup := ⟨{ strict := true }, ⟨.top, ["home"]⟩, false⟩
  have hsingle : ∀ file ∈ files,
      Arguments.read ["check", file] = .ok { a with task := some (.check [file]) } := by
    intro file hfile
    have hplain : ∀ file ∈ files, file.toList.head? ≠ some '-' := by decide
    exact read_check (by simp) (List.forall_mem_singleton.2 (hplain file hfile))
  have hread : Arguments.read ("check" :: files) = .ok a :=
    read_check (by simp) (by decide)
  have hnul : ∀ file ∈ files, '\x00' ∉ file.toList := by decide
  have hconfig : (Config.ofText q (t.textOf q)).toOption = some { strict := true } := by
    decide +kernel
  have hsets : a.Sets t s (some q) := by
    refine ⟨{ strict := true }, ?_, rfl⟩
    generalize Config.ofText q (t.textOf q) = loaded at hconfig
    cases loaded <;> cases hconfig
    rfl
  obtain ⟨hout, hzero, hrest, halone⟩ :=
    check_each hread rfl hsingle hnul rfl hsets
  have hpass (file : String) (hfile : file ∈ files) :
      (report ["check", file]).ending = .ok 0 ↔ s.accepts t file :=
    ((halone file hfile).2).trans Setup.accepts_iff.symm
  have hok : (report ["check", "ok.cnd"]).ending = .ok 0 := by
    have hschema : s.schema? t "ok.cnd" = some {} := by decide +kernel
    rw [hpass _ (by decide), Setup.accepts, hschema, Option.any_some, Setup.passes]
    simp [Schema.isValid, Schema.errors, Schema.repeatedNodeTypes, Schema.supertypeCycles,
      Schema.supertypeGraph, Graph.findCycle?, Graph.search, firsts, repeats, repeatsAfter,
      Schema.warnings]
  have hfails (file : String) (hfile : file ∈ files) (h : s.accepts t file = false) :
      (report ["check", file]).ending = .ok 1 := by
    refine (halone file hfile).1.resolve_left fun hzero => ?_
    rw [(hpass file hfile).1 hzero] at h
    cases h
  have hw : (report ["check", "w.cnd"]).ending = .ok 1 := by
    have hschema : s.schema? t "w.cnd" =
        some { nodeTypes := [{ name := "a", primaryItemName := some "x" }] } := by decide +kernel
    refine hfails _ (by decide) ?_
    rw [Setup.accepts, hschema, Option.any_some, Setup.passes, Bool.and_eq_false_iff]
    exact .inr (by decide)
  have hno : (report ["check", "no.cnd"]).ending = .ok 1 := by
    have hschema : s.schema? t "no.cnd" = none := by decide +kernel
    exact hfails _ (by decide) (by rw [Setup.accepts, hschema, Option.any_none])
  have hne : (report ("check" :: files)).ending ≠ .ok 0 := by
    intro h
    have hno' := hzero.1 h "no.cnd" (by decide)
    exact absurd (hno.symm.trans hno') (by simp)
  obtain ⟨hone, before, k, herr, hk⟩ := hrest hne
  have hcount : (files.countP fun file => (report ["check", file]).ending = .ok 1) = 3 := by
    simp [files, hw, hok, hno]
  obtain rfl : k = 3 := hk.trans hcount
  exact ⟨hnul, hout, hok, hone, before, herr⟩

end Cnd.Command
