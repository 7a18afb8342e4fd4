import Cnd.Text.Split

/-!
# Paths

A path is a root and the parts behind it. A single dot and the nothing between two slashes are
no parts, so paths that differ only in these are equal and are shown alike. Two dots are a
part: what they lead to depends on the files.
-/

namespace Cnd

inductive Path.Root where
  | here
  | top
  | doubled
deriving DecidableEq, Repr

/-- A path to a file or a directory. -/
structure Path where
  root : Path.Root
  parts : List String
deriving DecidableEq, Repr

namespace Path

/-- How a path with the root begins. -/
def Root.text : Root → String
  | here => ""
  | top => "/"
  | doubled => "//"

/-- The root of a path that is written with these characters. -/
def Root.ofChars : List Char → Root
  | '/' :: '/' :: '/' :: _ => .top
  | '/' :: '/' :: _ => .doubled
  | '/' :: _ => .top
  | _ => .here

def ofString (s : String) : Path :=
  let pieces := (Text.splitOn '/' s.toList).map String.ofList
  ⟨.ofChars s.toList, pieces.filter fun p => p ≠ "" ∧ p ≠ "."⟩

def text (p : Path) : String :=
  let s := p.root.text ++ "/".intercalate p.parts
  if s.isEmpty then "." else s

def isAbsolute (p : Path) : Bool := p.root ≠ .here

/-- Can no file have this path, because there is a NUL in it? -/
def hasNul (p : Path) : Bool := p.parts.any fun part => part.toList.contains '\x00'

def parent (p : Path) : Path := { p with parts := p.parts.dropLast }

/-- The last part of the path, or nothing. -/
def name (p : Path) : String := p.parts.getLast?.getD ""

/-- The last part without its extension: without its last dot and what is behind it, unless
the dot is the first or the last character. -/
def stem (p : Path) : String :=
  let cs := p.name.toList
  let extension := cs.reverse.takeWhile (· ≠ '.')
  let before := cs.length - extension.length - 1
  if extension.length < cs.length ∧ extension ≠ [] ∧ 0 < before then String.ofList (cs.take before)
  else p.name

/-- The path `q` as seen from `p`. -/
def join (p q : Path) : Path := if q.isAbsolute then q else { p with parts := p.parts ++ q.parts }

/-- The parts with every pair of dots taken together with the part in front of it. -/
def withoutDots (parts : List String) : List String :=
  parts.foldl (fun done part => if part = ".." then done.dropLast else done ++ [part]) []

/-- The path from the root that leads from `current` along `p`, when two dots undo one part. -/
def resolve (current p : Path) : Path := ⟨.top, withoutDots (current.join p).parts⟩

end Path

end Cnd
