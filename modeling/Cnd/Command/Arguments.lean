import Cnd.Command.Form
import Cnd.Text.Digit
import Cnd.Text.Quoted

/-!
# Reading a command line

The arguments are told apart by their looks before any of them is read: operands, options, and
the mark `--`, behind which there are only operands. A long option may be cut short as long as
no other one begins so, and may bring its value behind an equals sign. Short options may be
run together, the last of them with its value, and an equals sign may stand behind the first.
What no option and no operand of the form takes is left over.

The mark is dropped once wherever it is found among operands, and also where it is the value
that an option brings; the option then has no value.
-/

namespace Cnd.Command

/-- Why a command line cannot be read. -/
inductive Fault where
  | ambiguous (arg : String) (candidates : List String)
  | missingValue (flag : Flag)
  | unwantedValue (flag : Flag) (value : String)
  | missingOperands (name : String)
  | unknownSubcommand (name : String)
  | leftOver (args : List String)
deriving DecidableEq, Repr

def Fault.message : Fault → String
  | ambiguous arg candidates =>
    let list := ", ".intercalate candidates
    s!"ambiguous option: {arg} could match {list}"
  | missingValue flag => s!"argument {flag.label}: expected one argument"
  | unwantedValue flag value =>
    s!"argument {flag.label}: ignored explicit argument {Text.quoted value}"
  | missingOperands name => s!"the following arguments are required: {name}"
  | unknownSubcommand name =>
    let list := ", ".intercalate (Subcommand.all.map fun c => Text.quoted c.name)
    s!"argument COMMAND: invalid choice: {Text.quoted name} (choose from {list})"
  | leftOver args =>
    let list := " ".intercalate args
    s!"unrecognized arguments: {list}"

inductive Stop where
  | help (form : Form)
  | fault (form : Form) (f : Fault)
deriving DecidableEq, Repr

/-! ## Telling arguments apart -/

/-- What follows an option in the same argument. -/
inductive Attached where
  | nothing
  /-- What follows a short option, there or behind an equals sign: its value, or more short
  options. -/
  | short (c : Char) (cs : List Char)
  | value (cs : List Char)
deriving DecidableEq, Repr

inductive Look where
  | operand
  | mark
  | option (flag : Flag) (attached : Attached)
  | unknown
deriving DecidableEq, Repr

/-- An argument and what it looks like. -/
structure Argument where
  text : String
  look : Look
deriving DecidableEq, Repr

/-- Is a dash with these characters behind it a negative number? One line feed may end it. -/
def isNumber (cs : List Char) : Bool :=
  let cs := if cs.getLast? = some '\n' then cs.dropLast else cs
  match cs.dropWhile Text.isDigit with
  | [] => !cs.isEmpty
  | '.' :: fraction => !fraction.isEmpty && fraction.all Text.isDigit
  | _ => false

/-- The parts in front of the first equals sign and behind it. -/
def splitAtEquals? (arg : String) : Option (String × List Char) :=
  let cs := arg.toList
  match cs.dropWhile (· ≠ '=') with
  | [] => none
  | _ :: value => some (String.ofList (cs.takeWhile (· ≠ '=')), value)

/-- Is the spelling of an option the long one? -/
def isLong (spelling : String) : Bool := spelling.startsWith "--"

/-- What follows a spelling of an option behind an equals sign. -/
def Attached.behindEquals (spelling : String) : List Char → Attached
  | [] => value []
  | c :: cs => if isLong spelling then value (c :: cs) else short c cs

namespace Form

/-- The options that a long option can be short for. -/
def longCandidates (f : Form) (arg : String) : List (String × Look) :=
  let (start, attached) :=
    match splitAtEquals? arg with
    | some (start, value) => (start, Attached.value value)
    | none => (arg, .nothing)
  (f.spellings.filter fun s => s.1.startsWith start).map fun s => (s.1, .option s.2 attached)

/-- The option that begins a run of short ones. -/
def shortCandidates (f : Form) (c : Char) : List Char → List (String × Look)
  | [] => []
  | d :: ds =>
    let spelling := String.ofList ['-', c]
    match f.flag? spelling with
    | some flag => [(spelling, .option flag (.short d ds))]
    | none => []

/-- The look of an argument that is an option in full, with or without a value. -/
def exactLook? (f : Form) (arg : String) : Option Look :=
  match f.flag? arg with
  | some flag => some (.option flag .nothing)
  | none =>
    match splitAtEquals? arg with
    | some (spelling, value) =>
      (f.flag? spelling).map fun flag => .option flag (.behindEquals spelling value)
    | none => none

/-- The look of an argument, the mark apart. A lone dash is an operand, and so is what no
option begins with if it has a space in it or is a negative number. -/
def look (f : Form) (arg : String) : Except Fault Look :=
  match arg.toList with
  | '-' :: c :: rest =>
    match f.exactLook? arg with
    | some look => .ok look
    | none =>
      match if c = '-' then f.longCandidates arg else f.shortCandidates c rest with
      | [(_, look)] => .ok look
      | [] => .ok (if isNumber (c :: rest) || (c :: rest).contains ' ' then .operand else .unknown)
      | several => .error (.ambiguous arg (several.map (·.1)))
  | _ => .ok .operand

def classify (f : Form) : List String → Except Fault (List Argument)
  | [] => .ok []
  | "--" :: rest => .ok (⟨"--", .mark⟩ :: rest.map fun s => ⟨s, .operand⟩)
  | arg :: rest => do
    let look ← f.look arg
    let args ← f.classify rest
    return ⟨arg, look⟩ :: args

end Form

/-! ## Operands -/

/-- How many of the arguments the operands are, if the arguments begin with them. The mark may
stand in front of them and among them. -/
def Operands.length (o : Operands) (args : List Argument) : Nat :=
  let marks := args.takeWhile (·.look = .mark)
  match args.dropWhile (·.look = .mark) with
  | ⟨_, .operand⟩ :: rest =>
    let more :=
      match o with
      | one => (rest.takeWhile (·.look = .mark)).length
      | several => (rest.takeWhile fun a => a.look = .operand || a.look = .mark).length
      | command => rest.length
    marks.length + 1 + more
  | _ => 0

/-- The operands among the arguments taken: all of them but the first mark. A subcommand
reads the mark itself. -/
def Operands.select (o : Operands) (args : List String) : List String :=
  match o with
  | command => args
  | one | several => args.erase "--"

/-! ## Options -/

/-- An option as it was given, with the value it brings; none if it takes no value, or if the
value was dropped. -/
abbrev Given := Flag × Option String

/-- An option with a value that stands in the same argument. -/
def giveAttached (flag : Flag) (cs : List Char) : Given :=
  (flag, if cs = ['-', '-'] then none else some (String.ofList cs))

/-- The options that an argument stands for. -/
structure Run where
  complete : List Given
  waiting : Option Flag := none

/-- An option, and then what another run stands for. -/
def Run.behind (flag : Flag) (r : Run) : Run := { r with complete := (flag, none) :: r.complete }

/-- An option with nothing attached to it. -/
def Run.bare (flag : Flag) : Run :=
  if flag.takesValue then ⟨[], some flag⟩ else ⟨[(flag, none)], none⟩

/-- An option with a value attached to it. -/
def Run.withValue (flag : Flag) (cs : List Char) : Except Fault Run :=
  if flag.takesValue then .ok ⟨[giveAttached flag cs], none⟩
  else .error (.unwantedValue flag (String.ofList cs))

/-- A short option with the characters `c :: cs` attached: its value, or more short options,
the next of which is `c`. -/
def Form.shortRun (f : Form) (flag : Flag) (c : Char) (cs : List Char) : Except Fault Run :=
  if flag.takesValue then .ok ⟨[giveAttached flag (c :: cs)], none⟩
  else
    match f.flag? (String.ofList ['-', c]), cs with
    | none, _ => .error (.unwantedValue flag (String.ofList (c :: cs)))
    | some next, [] => .ok (.behind flag (.bare next))
    | some next, d :: ds => (f.shortRun next d ds).map (.behind flag)
termination_by structural cs

/-- The options that an argument stands for. -/
def Form.run (f : Form) (flag : Flag) : Attached → Except Fault Run
  | .nothing => .ok (.bare flag)
  | .short c cs => f.shortRun flag c cs
  | .value cs => Run.withValue flag cs

/-- Gives the waiting option its value, the next argument, which must be an operand. What is
left are the arguments behind it. -/
def Run.finish (r : Run) (rest : List Argument) :
    Except Fault (List Given × List Argument) :=
  match r.waiting, rest with
  | none, _ => .ok (r.complete, rest)
  | some flag, ⟨value, .operand⟩ :: rest => .ok (r.complete ++ [(flag, some value)], rest)
  | some flag, _ => .error (.missingValue flag)

theorem Run.finish_length {r : Run} {rest left : List Argument}
    {given : List Given} (h : r.finish rest = .ok (given, left)) :
    left.length ≤ rest.length := by
  unfold finish at h
  split at h <;> grind

/-! ## Reading by a form -/

/-- What the arguments of a form are. -/
structure Filled where
  given : List Given := []
  operands : Option (List String) := none
  leftOver : List String := []
deriving DecidableEq, Repr

/-- Reads arguments; `pending` tells whether the operands are still to come. -/
def Form.fill (f : Form) (pending : Bool) : List Argument → Except Stop Filled
  | [] => .ok {}
  | ⟨text, .unknown⟩ :: rest => do
    let r ← f.fill pending rest
    return { r with leftOver := text :: r.leftOver }
  | ⟨_, .option flag attached⟩ :: rest =>
    match f.run flag attached with
    | .error e => .error (.fault f e)
    | .ok run =>
      match h : run.finish rest with
      | .error e => .error (.fault f e)
      | .ok (given, left) =>
        have := run.finish_length h
        if given.any (·.1 = .help) then .error (.help f)
        else do
          let r ← f.fill pending left
          return { r with given := given ++ r.given }
  | a :: rest =>
    match if pending then f.operands.length (a :: rest) else 0 with
    | 0 => do
      let r ← f.fill pending rest
      return { r with leftOver := a.text :: r.leftOver }
    | n + 1 => do
      let r ← f.fill false (rest.drop n)
      return { r with
        operands := some (f.operands.select ((a :: rest.take n).map (·.text))) }
termination_by args => args.length

def Form.read (f : Form) (args : List String) : Except Stop Filled := do
  let classified ← (f.classify args).mapError (.fault f)
  let r ← f.fill true classified
  match r.operands, f.demanded with
  | none, some name => .error (.fault f (.missingOperands name))
  | _, _ => return r

/-! ## Command lines -/

inductive Asked where
  | file (name : String)
  | nothing
deriving DecidableEq, Repr

namespace Filled

def has (r : Filled) (flag : Flag) : Bool := r.given.any (·.1 = flag)

/-- What an option asks for, when it is there. The last one counts. -/
def value? (r : Filled) (flag : Flag) : Option Asked :=
  (r.given.reverse.lookup flag).map fun v => (v.map .file).getD .nothing

def operand (r : Filled) : String := (r.operands.getD []).headD ""

end Filled

inductive Task where
  | check (files : List String)
  | toArtifact (file : String) (output : Option Asked)
  /-- Print a file in canonical form, or write it back so. -/
  | format (file : String) (inPlace : Bool)
deriving DecidableEq, Repr

structure Arguments where
  config : Option Asked
  verbose : Bool
  task : Option Task
deriving DecidableEq, Repr

/-- The task of a subcommand with its arguments. -/
def Subcommand.task (r : Filled) : Subcommand → Task
  | .check => .check (r.operands.getD [])
  | .toArtifact => .toArtifact r.operand (r.value? .output)
  | .format => .format r.operand (r.has .write)

/-- The subcommand that the operands of the main form begin with, and what it leaves over. -/
def readTask : List String → Except Stop (Option Task × List String)
  | [] => .ok (none, [])
  | name :: args =>
    match Subcommand.ofName? name with
    | none => .error (.fault .main (.unknownSubcommand name))
    | some c => do
      let r ← (Form.ofSubcommand c).read args
      return (some (c.task r), r.leftOver)

def Arguments.read (args : List String) : Except Stop Arguments := do
  let r ← Form.main.read args
  let (task, more) ← readTask (r.operands.getD [])
  match r.leftOver ++ more with
  | [] => return ⟨r.value? .config, r.has .verbose, task⟩
  | leftOver => .error (.fault .main (.leftOver leftOver))

end Cnd.Command
