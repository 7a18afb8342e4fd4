import Cnd.Config.Basic
import Cnd.File.Reading

/-!
# Configuration files

A configuration that is a file is called by its path.
-/

namespace Cnd.Config

/-- The name of the configuration file that is used if no other one is asked for. -/
def fileName : String := ".cndkit.yaml"

inductive LoadFailure where
  | nulInPath
  | notFound (p : Path)
  | refused (r : Refusal)
  | undecodable (f : Text.Utf8.Fault)
  | content (p : Path) (e : Failure)
deriving DecidableEq, Repr

namespace LoadFailure

/-- The failure to read the text of the file. -/
def ofReadError (p : Path) : ReadError → LoadFailure
  | .file .nulInPath => nulInPath
  | .file (.refused ⟨.notFound, _⟩) => notFound p
  | .file (.refused r) => refused r
  | .encoding f => undecodable f

def message : LoadFailure → String
  | nulInPath => FileError.nulInPath.message
  | notFound p => s!"Config file not found: {p.text}"
  | refused r => s!"Cannot read config file: {r.message}"
  | undecodable f => f.message
  | content p e => e.message p.text

end LoadFailure

/-- The configuration of a file whose text is, or is not, there. -/
def ofText (p : Path) : Except ReadError String → Except LoadFailure Config
  | .error e => .error (.ofReadError p e)
  | .ok text => (read text).mapError (.content p)

def load {m : Type → Type} [Monad m] [FileSystem m] (p : Path) :
    m (Except LoadFailure Config) :=
  return ofText p (← FileSystem.readText p)

end Cnd.Config
