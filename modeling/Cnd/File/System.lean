import Cnd.File.Path
import Cnd.Text.Quoted

/-!
# File systems

The operations on files that the program needs, over any monad in which they can be done: the
files of the computer, or a tree of files that is a value. Each may be refused for a reason,
which a message names together with the path.
-/

namespace Cnd

/-- Why an operation on files is refused. -/
inductive Refusal.Reason where
  | notFound
  | alreadyExists
  | notDirectory
  | isDirectory
  /-- The path, or a part of it, is too long. -/
  | nameTooLong
  | other (code : Nat) (text : String)
deriving DecidableEq, Repr

namespace Refusal.Reason

def code : Reason → Nat
  | notFound => 2
  | alreadyExists => 17
  | notDirectory => 20
  | isDirectory => 21
  | nameTooLong => 36
  | other code _ => code

def text : Reason → String
  | notFound => "No such file or directory"
  | alreadyExists => "File exists"
  | notDirectory => "Not a directory"
  | isDirectory => "Is a directory"
  | nameTooLong => "File name too long"
  | other _ text => text

/-- Does the reason say no more than that nothing is there? Of the other ones, that is so for a
file that is not open (9) and for links that go in a circle (40). -/
def isAbsence : Reason → Bool
  | notFound | notDirectory => true
  | other code _ => code = 9 || code = 40
  | _ => false

end Refusal.Reason

structure Refusal where
  reason : Refusal.Reason
  path : Path
deriving DecidableEq, Repr

def Refusal.message (r : Refusal) : String :=
  s!"[Errno {r.reason.code}] {r.reason.text}: {Text.quoted r.path.text}"

inductive FileError where
  /-- The path has a NUL in it, so it is not even tried. -/
  | nulInPath
  | refused (r : Refusal)
deriving DecidableEq, Repr

def FileError.message : FileError → String
  | nulInPath => "embedded null byte"
  | refused r => r.message

/-- A place where files are kept. The paths have no NUL in them. -/
class FileSystem (m : Type → Type) where
  contentOf : Path → m (Except Refusal.Reason ByteArray)
  /-- Makes the bytes the content of a file, which is created if it is not there. -/
  putContent : Path → ByteArray → m (Except Refusal.Reason Unit)
  makeDirectory : Path → m (Except Refusal.Reason Unit)
  /-- Is a directory there? This is asked where making one was refused, so what may keep it from
  being found out is known by then. -/
  isDirectory : Path → m Bool
  /-- Is something there? It may be that this cannot be found out. -/
  isPresent : Path → m (Except Refusal.Reason Bool)
  currentDirectory : m Path

namespace FileSystem

variable {m : Type → Type} [Monad m] [FileSystem m]

def attempt {α : Type} (p : Path) (operation : Path → m (Except Refusal.Reason α)) :
    m (Except FileError α) := do
  if p.hasNul then return .error .nulInPath
  return (← operation p).mapError fun reason => .refused ⟨reason, p⟩

def readBytes (p : Path) : m (Except FileError ByteArray) := attempt p contentOf

def writeText (p : Path) (s : String) : m (Except FileError Unit) :=
  attempt p fun p => putContent p s.toUTF8

/-- Makes a directory, or finds that it is there. -/
def ensureDirectory (p : Path) : m (Except FileError Unit) := do
  match ← attempt p makeDirectory with
  | .error (.refused ⟨.notFound, q⟩) => return .error (.refused ⟨.notFound, q⟩)
  | .error (.refused r) => if ← isDirectory p then return .ok () else return .error (.refused r)
  | done => return done

/-- Makes a directory and the ones above it, as far as they are not there. -/
def ensureDirectories (p : Path) : m (Except FileError Unit) := do
  match ← ensureDirectory p with
  | .error (.refused ⟨.notFound, q⟩) =>
    if _h : p.parts = [] then return .error (.refused ⟨.notFound, q⟩)
    else
      match ← ensureDirectories p.parent with
      | .ok () => ensureDirectory p
      | failed => return failed
  | done => return done
termination_by p.parts.length
decreasing_by
  have := List.length_pos_iff.2 _h
  simp only [Path.parent, List.length_dropLast]
  omega

end FileSystem

end Cnd
