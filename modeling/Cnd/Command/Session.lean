import Cnd.Artifact.File
import Cnd.Config.File
import Cnd.Document.File

/-!
# Sessions

A command prints as it goes, to the standard output and to the standard error, and may be
broken off by a failure that no message of its own covers. What it printed before remains.
-/

namespace Cnd.Command

structure Printed where
  out : String := ""
  err : String := ""
deriving DecidableEq, Repr

/-- A failure that breaks a command off. -/
inductive Crash where
  | nulInPath
  /-- An option that asks for a file was given without a path. -/
  | noPath
  /-- Whether there is a configuration could not be found out. -/
  | refused (r : Refusal)
  | undecodable (f : Text.Utf8.Fault)
  | incomparableFields
  | value (f : Yaml.Fault)
deriving DecidableEq, Repr

/-- The failure to load a configuration, if it breaks a command off. All others are reported. -/
def Crash.ofConfig? : Config.LoadFailure → Option Crash
  | .nulInPath => some nulInPath
  | .undecodable f => some (undecodable f)
  | .content _ .incomparableFields => some incomparableFields
  | .content _ (.value f) => some (value f)
  | .notFound _ | .refused _ | .content _ (.problem _) => none

def Crash.message : Crash → String
  | nulInPath => FileError.nulInPath.message
  | noPath => "a path is expected"
  | refused r => r.message
  | undecodable f => f.message
  | incomparableFields => "the unknown fields cannot be put into an order"
  | value f => f.message

abbrev Session (m : Type → Type) (α : Type) := ExceptT Crash (StateT Printed m) α

/-! ## Printing -/

namespace Session

variable {m : Type → Type} [Monad m]

def print (s : String) : Session m Unit :=
  modify fun p => { p with out := p.out ++ s }

def printLine (s : String) : Session m Unit := print (s ++ "\n")

/-- Prints a line on the standard error. -/
def complain (s : String) : Session m Unit :=
  modify fun p => { p with err := p.err ++ s ++ "\n" }

/-- Prints the log, only the warnings in it unless all is wanted. -/
def note (verbose : Bool) (events : List Log.Event) : Session m Unit :=
  (events.filter fun e => verbose || e.level = .warning).forM fun e => complain e.line

end Session

end Cnd.Command
