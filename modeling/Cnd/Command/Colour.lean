/-!
# Colours

How a text is shown in a colour on a terminal: between a mark that begins the colour and one
that ends it. The text may hold such marks itself. So that its own marks do not spoil the
colour of the rest, the colour begins again behind each mark that ends one, stops around each
stretch between two marks that reset everything, and does not reach over line ends.
-/

namespace Cnd.Command

inductive Colour where
  | red
  | green
  | yellow
deriving DecidableEq, Repr

namespace Colour

def opening : Colour → List Char
  | red => ['\x1b', '[', '3', '1', 'm']
  | green => ['\x1b', '[', '3', '2', 'm']
  | yellow => ['\x1b', '[', '3', '3', 'm']

/-- What follows the escape character in the mark that ends a colour. -/
def endTail : List Char := ['[', '3', '9', 'm']

/-- What follows the escape character in the mark that resets everything. -/
def resetTail : List Char := ['[', '0', 'm']

def closing : List Char := '\x1b' :: endTail

def reset : List Char := '\x1b' :: resetTail

/-- The characters with the colour begun again behind each mark that ends one. -/
def reopen (c : Colour) : List Char → List Char
  | [] => []
  | '\x1b' :: rest =>
    if endTail.isPrefixOf rest then closing ++ c.opening ++ reopen c (rest.drop endTail.length)
    else '\x1b' :: reopen c rest
  | d :: rest => d :: reopen c rest
termination_by cs => cs.length

/-- The characters up to the end of the next reset on the same line, and those behind it. -/
def throughReset? : List Char → Option (List Char × List Char)
  | [] => none
  | d :: rest =>
    if d = '\n' then none
    else if d = '\x1b' ∧ resetTail.isPrefixOf rest then
      some (reset, rest.drop resetTail.length)
    else (throughReset? rest).map fun r => (d :: r.1, r.2)

theorem length_throughReset? {cs taken behind : List Char}
    (h : throughReset? cs = some (taken, behind)) : behind.length < cs.length := by
  induction cs generalizing taken with
  | nil => simp [throughReset?] at h
  | cons d rest ih =>
    rw [throughReset?] at h
    split at h
    · simp at h
    · split at h
      · obtain ⟨_, rfl⟩ := Prod.mk.inj (Option.some.inj h)
        simp only [List.length_drop, List.length_cons]
        omega
      · obtain ⟨r, hr, he⟩ := Option.map_eq_some_iff.mp h
        obtain ⟨_, rfl⟩ := Prod.mk.inj he
        have := ih hr
        simp only [List.length_cons]
        omega

/-- The characters with the colour stopped around each stretch from one reset to the next on
the same line. -/
def aroundResets (c : Colour) : List Char → List Char
  | [] => []
  | d :: rest =>
    if d = '\x1b' ∧ resetTail.isPrefixOf rest then
      match _h : throughReset? (rest.drop resetTail.length) with
      | some (stretch, behind) => closing ++ reset ++ stretch ++ c.opening ++ aroundResets c behind
      | none => d :: aroundResets c rest
    else d :: aroundResets c rest
termination_by cs => cs.length
decreasing_by
  · have := length_throughReset? _h
    simp only [List.length_drop] at this
    simp only [List.length_cons]
    omega
  · simp
  · simp

/-- The characters with the colour stopped in front of each line end and begun again behind
it. -/
def acrossLines (c : Colour) : List Char → List Char
  | [] => []
  | '\r' :: '\n' :: rest => closing ++ '\r' :: '\n' :: c.opening ++ acrossLines c rest
  | '\n' :: rest => closing ++ '\n' :: c.opening ++ acrossLines c rest
  | d :: rest => d :: acrossLines c rest

def paint (c : Colour) (s : String) : String :=
  String.ofList (c.opening ++ c.acrossLines (c.aroundResets (c.reopen s.toList)) ++ closing)

end Colour

end Cnd.Command
