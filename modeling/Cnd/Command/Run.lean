import Cnd.Command.Arguments
import Cnd.Command.Colour
import Cnd.Command.Session
import Cnd.Schema.Canonical
import Cnd.Schema.Check

/-!
# Running commands

What the program does for a command line. A command ends with 0 if all went well, with 1 if a
file or the configuration is not as it should be, and with 2 if the command line cannot be
read. Only two of them write: an artifact goes to the file that is asked for or to the
directory of the configuration, and formatting in place writes to the file that was read.
-/

namespace Cnd.Command

open Session

variable {m : Type → Type} [Monad m] [FileSystem m]

/-! ## The configuration -/

structure Setup where
  config : Config
  directory : Path
  verbose : Bool

/-- The configuration in a file, or none if there is something wrong with it. -/
def readConfig (p : Path) : Session m (Option Config) := do
  match ← (Config.load p : m (Except Config.LoadFailure Config)) with
  | .ok c => return some c
  | .error e =>
    match Crash.ofConfig? e with
    | some crash => throw crash
    | none =>
      complain s!"Error: {e.message}"
      return none

/-- The file of the configuration, if there is one: the file asked for, or the usual one in
the current directory. -/
def configFile (asked : Option Asked) (current : Path) : Session m (Option Path) := do
  match asked with
  | some .nothing => throw .noPath
  | some (.file name) =>
    let p := Path.ofString name
    if p.hasNul then throw .nulInPath else return some (.resolve current p)
  | none =>
    let usual := current.join (.ofString Config.fileName)
    match ← (FileSystem.isPresent usual : m (Except Refusal.Reason Bool)) with
    | .ok present => return if present then some usual else none
    | .error reason => throw (.refused ⟨reason, usual⟩)

/-- The configuration in force, or none if there is something wrong with it. -/
def setup (a : Arguments) : Session m (Option Setup) := do
  let current ← (FileSystem.currentDirectory : m Path)
  match ← configFile a.config current with
  | none => return some ⟨{}, current, a.verbose⟩
  | some p => return (← readConfig p).map fun c => ⟨c, p.parent, a.verbose⟩

/-! ## Loading -/

/-- The schema of a file, or none if it has none. -/
def loadSchema (s : Setup) (p : Path) : Session m (Option Schema) := do
  let loading ← (Document.load s.config.namespaces p : m Document.Loading)
  note s.verbose loading.events
  match loading.schema with
  | .ok schema => return some schema
  | .error .nulInPath => throw .nulInPath
  | .error e =>
    complain s!"Error: {e.message}"
    return none

/-! ## Checking -/

def Setup.passes (s : Setup) (schema : Schema) : Bool :=
  schema.isValid && !(s.config.strict && !schema.warnings.isEmpty)

/-- The lines about the file of a schema. -/
def Setup.verdict (s : Setup) (p : Path) (schema : Schema) : List String :=
  let first :=
    if s.passes schema then
      Colour.green.paint s!"PASS  {p.text}" ++ s!" ({schema.nodeTypes.length} node types)"
    else Colour.red.paint s!"FAIL  {p.text}"
  first :: (schema.errors.map fun e => Colour.red.paint s!"  error: {e.message}")
    ++ schema.warnings.map fun w => Colour.yellow.paint s!"  warning: {w.message}"

def checkFile (s : Setup) (file : String) : Session m Bool := do
  let p := Path.ofString file
  match ← loadSchema s p with
  | none =>
    printLine (Colour.red.paint s!"FAIL  {p.text}")
    return false
  | some schema =>
    (s.verdict p schema).forM printLine
    return s.passes schema

def check (s : Setup) (files : List String) : Session m Nat := do
  let passed ← files.mapM (checkFile s)
  let failed := passed.countP (!·)
  if failed = 0 then return 0
  complain s!"\n{failed} of {files.length} file(s) failed."
  return 1

/-! ## Artifacts -/

/-- The file of the artifact, if it is to be written to one: the file asked for, or one in the
directory of the configuration. -/
def Setup.target? (s : Setup) (source : Path) : Option Asked → Except Crash (Option Path)
  | some (.file name) => .ok (some (.ofString name))
  | some .nothing => .error .noPath
  | none =>
    .ok (s.config.outputDirectory.map fun d =>
      (s.directory.join (.ofString d)).join ⟨.here, [source.stem ++ ".json"]⟩)

/-- Prints or writes the artifact of a file. -/
def toArtifact (s : Setup) (file : String) (output : Option Asked) : Session m Nat := do
  let p := Path.ofString file
  match ← loadSchema s p with
  | none => return 1
  | some schema =>
    match ← (MonadExcept.ofExcept (s.target? p output) : Session m (Option Path)) with
    | none =>
      printLine (Artifact.fileText schema)
      return 0
    | some target =>
      match ← (Artifact.write schema target : m (Except FileError Unit)) with
      | .ok () =>
        printLine s!"Wrote {target.text}."
        return 0
      | .error .nulInPath => throw .nulInPath
      | .error (.refused r) =>
        complain s!"Error: cannot write '{target.text}': {r.message}"
        return 1

/-! ## Formatting -/

/-- Prints a file in canonical form, or writes it back so. -/
def format (s : Setup) (file : String) (inPlace : Bool) : Session m Nat := do
  let p := Path.ofString file
  match ← loadSchema s p with
  | none => return 1
  | some schema =>
    if inPlace then
      match ← (FileSystem.writeText p schema.render : m (Except FileError Unit)) with
      | .ok () =>
        printLine s!"Formatted {p.text}."
        return 0
      | .error .nulInPath => throw .nulInPath
      | .error (.refused r) =>
        complain s!"Error: cannot write '{p.text}': {r.message}"
        return 1
    else
      print schema.render
      return 0

/-! ## Whole runs -/

def Task.run (s : Setup) : Task → Session m Nat
  | .check files => Command.check s files
  | .toArtifact file output => Command.toArtifact s file output
  | .format file inPlace => Command.format s file inPlace

def Arguments.run (a : Arguments) : Session m Nat := do
  match a.task with
  | none =>
    print Form.main.help
    return 0
  | some task =>
    match ← setup a with
    | none => return 1
    | some s => task.run s

/-- Runs a command line. The result is the code it ends with. -/
def session (args : List String) : Session m Nat := do
  match Arguments.read args with
  | .ok a => a.run
  | .error (.help form) =>
    print form.help
    return 0
  | .error (.fault form f) =>
    complain form.usage
    complain s!"{form.title}: error: {f.message}"
    return 2

structure Report where
  printed : Printed
  /-- The code it ended with, or what broke it off. -/
  ending : Except Crash Nat

def run (args : List String) : m Report := do
  let (ending, printed) ← ((session args : Session m Nat).run).run {}
  return ⟨printed, ending⟩

end Cnd.Command
