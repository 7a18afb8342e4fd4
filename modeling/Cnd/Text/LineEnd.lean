/-!
# Line ends

A line of a file may end with a line feed, a carriage return, or both in this order. A text
that was read has only line feeds.
-/

namespace Cnd.Text

/-- The characters behind `done`, which is in reverse order, with a line feed for every line
end. -/
def feedLinesOnto (done : List Char) : List Char → List Char
  | [] => done.reverse
  | '\r' :: '\n' :: rest => feedLinesOnto ('\n' :: done) rest
  | '\r' :: rest => feedLinesOnto ('\n' :: done) rest
  | c :: rest => feedLinesOnto (c :: done) rest

/-- The text with a line feed for every line end. -/
def feedLines (s : String) : String := String.ofList (feedLinesOnto [] s.toList)

theorem feedLinesOnto_of_not_mem {done cs : List Char} (h : '\r' ∉ cs) :
    feedLinesOnto done cs = done.reverse ++ cs := by
  fun_induction feedLinesOnto done cs with
  | case1 => simp
  | case2 => simp at h
  | case3 => simp at h
  | case4 _ c _ _ _ ih => simp [ih (fun hm => h (by simp [hm]))]

/-- A text without carriage returns stays as it is. -/
theorem feedLines_of_not_mem {s : String} (h : '\r' ∉ s.toList) : feedLines s = s := by
  simp [feedLines, feedLinesOnto_of_not_mem h]

end Cnd.Text
