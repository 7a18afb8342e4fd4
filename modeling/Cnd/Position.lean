/-!
# Positions in a text

A position counts lines and columns from one and characters from zero. Only the line feed
starts a new line. Every position the lexer reports is `start.after cs` for the characters
`cs` before it, so line, column and offset never disagree.
-/

namespace Cnd

/-- A place in a text. The fields are integers because tokens may also come from outside,
with positions that no text has. -/
structure Position where
  /-- The line, counted from one. -/
  line : Int
  /-- The column, counted from one. -/
  column : Int
  /-- The number of characters before this place. -/
  offset : Int
deriving DecidableEq, Repr, Inhabited

namespace Position

/-- The beginning of a text. -/
def start : Position := ⟨1, 1, 0⟩

/-- The place behind the character `c`. -/
def next (p : Position) (c : Char) : Position :=
  if c = '\n' then ⟨p.line + 1, 1, p.offset + 1⟩ else ⟨p.line, p.column + 1, p.offset + 1⟩

/-- The place behind the characters `cs`. -/
def after (p : Position) (cs : List Char) : Position := cs.foldl next p

@[simp] theorem after_nil (p : Position) : p.after [] = p := rfl

@[simp] theorem after_cons (p : Position) (c : Char) (cs : List Char) :
    p.after (c :: cs) = (p.next c).after cs := rfl

theorem after_append (p : Position) (cs ds : List Char) :
    p.after (cs ++ ds) = (p.after cs).after ds := by
  simp [after]

@[simp] theorem offset_next (p : Position) (c : Char) : (p.next c).offset = p.offset + 1 := by
  rw [next]; split <;> rfl

theorem offset_after (p : Position) (cs : List Char) :
    (p.after cs).offset = p.offset + cs.length := by
  induction cs generalizing p with
  | nil => simp
  | cons c cs ih => simp only [after_cons, ih, offset_next, List.length_cons]; omega

/-- A message about this place, led by the name of the document if it has one. -/
def locate (p : Position) (source : Option String) (text : String) : String :=
  let located := s!"{text} at line {p.line}, column {p.column}"
  match source with
  | none => located
  | some name => if name.isEmpty then located else s!"{name}: {located}"

end Position

end Cnd
