import Cnd.File.System

/-!
# Trees of files

A file system that is a value: a list of places and what is there. A place is the parts of a
path from the root. A path is followed part by part, and each part must be looked up in a
directory. The current directory and those above it are always there.
-/

namespace Cnd

inductive FileTree.Entry where
  | file (content : ByteArray)
  | directory

def FileTree.Entry.isDirectory : Entry → Bool
  | file _ => false
  | directory => true

structure FileTree where
  current : List String
  /-- What is at the other places, each of them at most once. -/
  entries : List (List String × FileTree.Entry) := []

namespace FileTree

abbrev Place := List String

def at? (t : FileTree) (place : Place) : Option Entry :=
  if place.isPrefixOf t.current then some .directory else t.entries.lookup place

/-- The list of places with an entry put at one of them. -/
def putEntry (place : Place) (e : Entry) : List (Place × Entry) → List (Place × Entry)
  | [] => [(place, e)]
  | (p, f) :: rest => if p = place then (p, e) :: rest else (p, f) :: putEntry place e rest

/-- The tree with an entry put at a place. -/
def put (t : FileTree) (place : Place) (e : Entry) : FileTree :=
  { t with entries := putEntry place e t.entries }

theorem lookup_putEntry {place p : Place} {e : Entry} {l : List (Place × Entry)} :
    (putEntry place e l).lookup p = if p = place then some e else l.lookup p := by
  induction l with
  | nil => grind [putEntry]
  | cons x rest ih => grind [putEntry]

/-- What was put at a place is there, and nothing else has changed. The current directory and
those above it stay what they are. -/
theorem at?_put (t : FileTree) (place p : Place) (e : Entry) :
    (t.put place e).at? p =
      if p.isPrefixOf t.current then some .directory
      else if p = place then some e else t.at? p := by
  simp only [at?, put, lookup_putEntry]
  by_cases h : p.isPrefixOf t.current <;> simp [h]

/-- The greatest number of bytes in a part of a path. -/
def maxPart : Nat := 255

/-- The greatest number of bytes in a path. -/
def maxPath : Nat := 4095

/-- The place that the parts lead to from a place. The last part may lead to nothing yet. -/
def follow (t : FileTree) (here : Place) : List String → Except Refusal.Reason Place
  | [] => .ok here
  | part :: rest =>
    match t.at? here with
    | none => .error .notFound
    | some (.file _) => .error .notDirectory
    | some .directory =>
      if part = ".." then t.follow here.dropLast rest
      else if maxPart < part.utf8ByteSize then .error .nameTooLong
      else t.follow (here ++ [part]) rest

/-- The place that a path leads to. -/
def locate (t : FileTree) (p : Path) : Except Refusal.Reason Place :=
  if maxPath < p.text.utf8ByteSize then .error .nameTooLong
  else t.follow (if p.isAbsolute then [] else t.current) p.parts

def contentOf (t : FileTree) (p : Path) : Except Refusal.Reason ByteArray := do
  let place ← t.locate p
  match t.at? place with
  | none => .error .notFound
  | some .directory => .error .isDirectory
  | some (.file content) => .ok content

/-- The tree in which a file has the content. -/
def putContent (t : FileTree) (p : Path) (content : ByteArray) :
    Except Refusal.Reason FileTree := do
  let place ← t.locate p
  match t.at? place with
  | some .directory => .error .isDirectory
  | _ => .ok (t.put place (.file content))

def makeDirectory (t : FileTree) (p : Path) : Except Refusal.Reason FileTree := do
  let place ← t.locate p
  match t.at? place with
  | some _ => .error .alreadyExists
  | none => .ok (t.put place .directory)

/-- What a path leads to. One that cannot be followed leads to nothing. -/
def find? (t : FileTree) (p : Path) : Option Entry :=
  match t.locate p with
  | .ok place => t.at? place
  | .error _ => none

/-- Is something there? A path that is too long cannot even be looked for. -/
def isPresent (t : FileTree) (p : Path) : Except Refusal.Reason Bool :=
  match t.locate p with
  | .ok place => .ok (t.at? place).isSome
  | .error reason => if reason.isAbsence then .ok false else .error reason

/-- Goes on with a new tree, or stays with the one there is. -/
def change (f : FileTree → Except Refusal.Reason FileTree) :
    StateM FileTree (Except Refusal.Reason Unit) := do
  match f (← get) with
  | .ok t => set t; return .ok ()
  | .error e => return .error e

instance : FileSystem (StateM FileTree) where
  contentOf p := return (← get).contentOf p
  putContent p content := change fun t => t.putContent p content
  makeDirectory p := change fun t => t.makeDirectory p
  isDirectory p := return ((← get).find? p).any (·.isDirectory)
  isPresent p := return (← get).isPresent p
  currentDirectory := return ⟨.top, (← get).current⟩

end FileTree

end Cnd
