import Cnd.Document.Trace
import Cnd.File.Reading

/-!
# Loading documents

A document that is a file is named by its path, in its errors and in the log.
-/

namespace Cnd.Document

inductive LoadFailure where
  | nulInPath
  | notFound (p : Path)
  | refused (p : Path) (r : Refusal)
  | undecodable (p : Path) (f : Text.Utf8.Fault)
  | content (p : Path) (e : Failure)
deriving DecidableEq, Repr

/-- The failure for which a document called `name` cannot be read, in words. -/
def Failure.message (name : Option String) : Failure → String
  | scan e => e.position.locate name e.text
  | parse e => e.position.locate name e.text

namespace LoadFailure

/-- The failure to read the text of the file. -/
def ofReadError (p : Path) : ReadError → LoadFailure
  | .file .nulInPath => nulInPath
  | .file (.refused ⟨.notFound, _⟩) => notFound p
  | .file (.refused r) => refused p r
  | .encoding f => undecodable p f

def message : LoadFailure → String
  | nulInPath => FileError.nulInPath.message
  | notFound p => s!"CND file not found: {p.text}"
  | refused p r => s!"Cannot read CND file '{p.text}': {r.message}"
  | undecodable p f => s!"Cannot read CND file '{p.text}': {f.message}"
  | content p e => e.message (some p.text)

end LoadFailure

structure Loading where
  events : List Log.Event
  schema : Except LoadFailure Schema

/-- What comes of a file whose text is, or is not, there. -/
def Loading.ofText (namespaces : Namespaces) (p : Path) : Except ReadError String → Loading
  | .error e => ⟨[.loading p.text], .error (.ofReadError p e)⟩
  | .ok source =>
    let r := read namespaces source
    ⟨.loading p.text :: r.log (some p.text) namespaces, r.schema.mapError (.content p)⟩

/-- Loads the document in a file, whose names may use the prefixes of `namespaces`. -/
def load {m : Type → Type} [Monad m] [FileSystem m] (namespaces : Namespaces) (p : Path) :
    m Loading :=
  return .ofText namespaces p (← FileSystem.readText p)

end Cnd.Document
