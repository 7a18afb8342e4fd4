import Cnd.Artifact.Basic
import Cnd.File.Reading

/-!
# Artifacts in files

An artifact in a file is indented by two spaces a level. The directories above it are made
when it is written.
-/

namespace Cnd.Artifact

variable {m : Type → Type} [Monad m] [FileSystem m]

/-- The text of an artifact as it stands in a file. -/
def fileText (s : Schema) : String := serialize (some 2) s

/-- Writes the artifact of a schema to a file. -/
def write (s : Schema) (p : Path) : m (Except FileError Unit) := do
  match ← FileSystem.ensureDirectories p.parent with
  | .ok () => FileSystem.writeText p (fileText s)
  | failed => return failed

inductive LoadFailure where
  | unreadable (e : ReadError)
  | content (e : Failure)

/-- Reads the schema of the artifact in a file. -/
def load (p : Path) : m (Except LoadFailure Schema) := do
  match ← FileSystem.readText p with
  | .ok text => return (deserialize text).mapError .content
  | .error e => return .error (.unreadable e)

end Cnd.Artifact
