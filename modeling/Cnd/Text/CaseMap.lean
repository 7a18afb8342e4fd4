/-!
# Case maps

A case map sends a character to one or more characters. Most of a script moves by one
offset, in runs of every code point or of every other one; a few characters, such as the
sharp s, expand into several.
-/

namespace Cnd.Text

/-- The code points `first`, `first + step`, … up to `last`, all moved by `offset`. -/
structure CaseRun where
  first : Nat
  last : Nat
  /-- One for consecutive code points, two for every other one. -/
  step : Nat
  /-- What is added to a code point of the run. -/
  offset : Int

/-- A case map: runs in ascending order of their first code point, and the characters that
become several. A character in neither is left alone. -/
structure CaseMap where
  runs : List CaseRun
  expansions : List (Nat × List Nat)

namespace CaseMap

/-- The offset of the run that holds `n`. -/
def offset? : List CaseRun → Nat → Option Int
  | [], _ => none
  | r :: rest, n =>
    if n < r.first then none
    else if n ≤ r.last ∧ (n - r.first) % r.step = 0 then some r.offset
    else offset? rest n

def expansion? : List (Nat × List Nat) → Nat → Option (List Nat)
  | [], _ => none
  | (m, e) :: rest, n =>
    if n < m then none else if n = m then some e else expansion? rest n

def char (m : CaseMap) (c : Char) : List Char :=
  match offset? m.runs c.toNat with
  | some d => [Char.ofNat (c.toNat + d).toNat]
  | none =>
    match expansion? m.expansions c.toNat with
    | some e => e.map Char.ofNat
    | none => [c]

def apply (m : CaseMap) (s : String) : String := String.ofList (s.toList.flatMap m.char)

theorem mem_of_expansion? {l : List (Nat × List Nat)} {n : Nat} {e : List Nat}
    (h : expansion? l n = some e) : (n, e) ∈ l := by
  fun_induction expansion? l n with
  | case1 => cases h
  | case2 => cases h
  | case3 =>
    cases h
    exact List.mem_cons_self
  | case4 _ _ _ _ _ _ ih => exact List.mem_cons_of_mem _ (ih h)

/-- No character is lost if each expansion has characters. -/
theorem apply_eq_empty_iff {m : CaseMap} (hm : ∀ e ∈ m.expansions, e.2 ≠ []) {s : String} :
    m.apply s = "" ↔ s = "" := by
  have hchar : ∀ c, m.char c ≠ [] := by
    intro c
    unfold char
    split
    · exact List.cons_ne_nil _ _
    · split
      · rename_i e he
        simpa using hm _ (mem_of_expansion? he)
      · exact List.cons_ne_nil _ _
  rw [apply, ← String.toList_inj, ← String.toList_inj]
  cases hs : s.toList with
  | nil => simp
  | cons c cs => simp [hchar c]

end CaseMap

end Cnd.Text
