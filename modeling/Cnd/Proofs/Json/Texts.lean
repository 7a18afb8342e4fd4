import Cnd.Proofs.Json.Numerals
import Cnd.Proofs.Json.Spelling
import Cnd.Proofs.Outcome

/-!
# The texts of a value

The grammar of JSON, with three words more for the floating-point values that have no digits:
`Written` has a rule for each form, with spaces wherever they may stand and every spelling of a
string. The members of an object may repeat a name; its value keeps the last one of each
(`Json.distinct`). The reader reads exactly these texts, each as the value that it is written for
(`read_eq_ok`).
-/

namespace Cnd.Json

/-- What a stretch of a text may be written for. The items and the members stand between their
brackets, and `object` has all members in the order of the text. -/
inductive Piece where
  | value (v : Json)
  | items (vs : List Json)
  | member (m : String × Json)
  | members (ms : List (String × Json))
  | object (ms : List (String × Json))

/-- Spaces, tabs and line ends. -/
def Spaces (w : List Char) : Prop := ∀ c ∈ w, c = ' ' ∨ c = '\t' ∨ c = '\n' ∨ c = '\r'

/-- The characters are written for the piece, with no spaces around a value, a member or an
object. -/
inductive Written : Piece → List Char → Prop
  | null : Written (.value .null) ['n', 'u', 'l', 'l']
  | true : Written (.value (.bool true)) ['t', 'r', 'u', 'e']
  | false : Written (.value (.bool false)) ['f', 'a', 'l', 's', 'e']
  | notANumber : Written (.value (.float (0 / 0))) ['N', 'a', 'N']
  | infinity : Written (.value (.float (1 / 0))) ['I', 'n', 'f', 'i', 'n', 'i', 't', 'y']
  | minusInfinity :
      Written (.value (.float (-1 / 0))) ['-', 'I', 'n', 'f', 'i', 'n', 'i', 't', 'y']
  | number {v : Json} {cs : List Char} (h : NumberText v cs) : Written (.value v) cs
  | string {s : String} {cs : List Char} (h : Spelled s.toList cs) :
      Written (.value (.string s)) ('\x22' :: (cs ++ ['\x22']))
  | emptyArray {w : List Char} (hw : Spaces w) : Written (.value (.array [])) ('[' :: (w ++ [']']))
  | array {vs : List Json} {cs : List Char} (h : Written (.items vs) cs) :
      Written (.value (.array vs)) ('[' :: (cs ++ [']']))
  | ofObject {ms : List (String × Json)} {cs : List Char} (h : Written (.object ms) cs) :
      Written (.value (.object (distinct ms))) cs
  | emptyObject {w : List Char} (hw : Spaces w) : Written (.object []) ('\x7b' :: (w ++ ['\x7d']))
  | object {ms : List (String × Json)} {cs : List Char} (h : Written (.members ms) cs) :
      Written (.object ms) ('\x7b' :: (cs ++ ['\x7d']))
  | lastItem {v : Json} {w cs w' : List Char} (hw : Spaces w) (hv : Written (.value v) cs)
      (hw' : Spaces w') : Written (.items [v]) (w ++ (cs ++ w'))
  | item {v : Json} {vs : List Json} {w cs w' ds : List Char} (hw : Spaces w)
      (hv : Written (.value v) cs) (hw' : Spaces w') (hvs : Written (.items vs) ds) :
      Written (.items (v :: vs)) (w ++ (cs ++ (w' ++ ',' :: ds)))
  | member {k : String} {v : Json} {ks w w' cs : List Char} (hk : Spelled k.toList ks)
      (hw : Spaces w) (hw' : Spaces w') (hv : Written (.value v) cs) :
      Written (.member (k, v)) ('\x22' :: (ks ++ '\x22' :: (w ++ ':' :: (w' ++ cs))))
  | lastMember {m : String × Json} {w cs w' : List Char} (hw : Spaces w)
      (hm : Written (.member m) cs) (hw' : Spaces w') : Written (.members [m]) (w ++ (cs ++ w'))
  | consMember {m : String × Json} {ms : List (String × Json)} {w cs w' ds : List Char}
      (hw : Spaces w) (hm : Written (.member m) cs) (hw' : Spaces w')
      (hms : Written (.members ms) ds) :
      Written (.members (m :: ms)) (w ++ (cs ++ (w' ++ ',' :: ds)))

/-- A whole text, which may have spaces around the piece that it is written for. -/
def TextOf (p : Piece) (text : String) : Prop :=
  ∃ w cs w', Spaces w ∧ Written p cs ∧ Spaces w' ∧ text.toList = w ++ (cs ++ w')

/-! ## Spaces -/

section Spaces

variable {c : Char} {w cs rest : List Char}

theorem isSpace_iff : isSpace c ↔ c = ' ' ∨ c = '\t' ∨ c = '\n' ∨ c = '\r' := by
  simp [isSpace, or_assoc]

theorem skipSpace_cons (h : ¬ isSpace c) : skipSpace (c :: cs) = c :: cs := by
  rw [skipSpace, List.dropWhile_cons, if_neg h]

theorem skipSpace_append (hw : Spaces w) : skipSpace (w ++ cs) = skipSpace cs := by
  rw [skipSpace, List.dropWhile_append_of_pos fun c hc => isSpace_iff.2 (hw c hc)]
  rfl

theorem Spaces.append {w' : List Char} (hw : Spaces w) (hw' : Spaces w') : Spaces (w ++ w') :=
  List.forall_mem_append.2 ⟨hw, hw'⟩

theorem Spaces.nil : Spaces [] := List.forall_mem_nil _

/-- What is skipped are spaces. -/
theorem exists_spaces (cs : List Char) : ∃ w, cs = w ++ skipSpace cs ∧ Spaces w := by
  refine ⟨cs.takeWhile isSpace, List.takeWhile_append_dropWhile.symm, fun c hc => ?_⟩
  exact isSpace_iff.1 (List.all_eq_true.1 List.all_takeWhile c hc)

/-- Spaces end a numeral. -/
theorem Spaces.ends (hw : Spaces w) (hrest : Ends rest) : Ends (w ++ rest) := by
  cases w with
  | nil => exact hrest
  | cons c w =>
    rintro _ ⟨⟩
    rcases hw c List.mem_cons_self with rfl | rfl | rfl | rfl <;> decide

theorem ends_cons (hc : c = ',' ∨ c = ']' ∨ c = '\x7d') : Ends (c :: cs) := by
  rintro _ ⟨⟩
  rcases hc with rfl | rfl | rfl <;> decide

end Spaces

/-! ## One step of the reader -/

section Steps

variable {fuel : Nat} {cs inside behind more rest : List Char} {v : Json} {vs : List Json}
variable {k : String} {ms : List (String × Json)}

theorem readValue_string {s : String} (h : readString ('\x22' :: cs) [] cs = .ok (s, rest)) :
    readValue (fuel + 1) ('\x22' :: cs) = .ok (.string s, rest) := by
  rw [readValue, h]
  rfl

theorem readValue_array (hinside : skipSpace cs = inside) (hitem : inside.head? ≠ some ']')
    (h : readItems fuel inside = .ok (vs, rest)) :
    readValue (fuel + 1) ('[' :: cs) = .ok (.array vs, rest) := by
  subst hinside
  rw [readValue]
  split
  · rename_i heq
    rw [heq] at hitem
    exact absurd rfl hitem
  · rw [h]
    rfl

theorem readItems_last (hv : readValue fuel cs = .ok (v, behind))
    (hend : skipSpace behind = ']' :: rest) : readItems (fuel + 1) cs = .ok ([v], rest) := by
  rw [readItems, hv]
  simp only [bind, Except.bind, hend]
  rfl

theorem readItems_comma (hv : readValue fuel cs = .ok (v, behind))
    (hcomma : skipSpace behind = ',' :: more)
    (h : readItems fuel (skipSpace more) = .ok (vs, rest)) :
    readItems (fuel + 1) cs = .ok (v :: vs, rest) := by
  rw [readItems, hv]
  simp only [bind, Except.bind, hcomma, h]
  rfl

theorem readValue_object (hinside : skipSpace cs = inside) (hmember : inside.head? ≠ some '\x7d')
    (h : readMembers fuel inside = .ok (ms, rest)) :
    readValue (fuel + 1) ('\x7b' :: cs) = .ok (.object (distinct ms), rest) := by
  subst hinside
  rw [readValue]
  split
  · rename_i heq
    rw [heq] at hmember
    exact absurd rfl hmember
  · rw [h]
    rfl

/-- What begins like a number is read as one. -/
theorem readValue_number {d : Char} (negative : Bool) (hd : d.isDigit) :
    readValue (fuel + 1) (signed negative (d :: cs)) = readNumber (signed negative (d :: cs)) := by
  cases negative <;> rw [signed, readValue]
  all_goals rintro _ ⟨⟩
  all_goals
    revert hd
    decide

/-- A member is read from behind the quote that its name begins with. -/
def ReadsMember (fuel : Nat) (cs : List Char) (k : String) (v : Json) (behind : List Char) : Prop :=
  ∃ afterName more, readString ('\x22' :: cs) [] cs = .ok (k, afterName) ∧
    skipSpace afterName = ':' :: more ∧ readValue fuel (skipSpace more) = .ok (v, behind)

theorem readMembers_last (hm : ReadsMember fuel cs k v behind)
    (hend : skipSpace behind = '\x7d' :: rest) :
    readMembers (fuel + 1) ('\x22' :: cs) = .ok ([(k, v)], rest) := by
  obtain ⟨afterName, more, hk, hcolon, hv⟩ := hm
  rw [readMembers, hk]
  simp only [bind, Except.bind, hcolon, hv, hend]
  rfl

theorem readMembers_comma (hm : ReadsMember fuel cs k v behind)
    (hcomma : skipSpace behind = ',' :: more)
    (h : readMembers fuel (skipSpace more) = .ok (ms, rest)) :
    readMembers (fuel + 1) ('\x22' :: cs) = .ok ((k, v) :: ms, rest) := by
  obtain ⟨afterName, more, hk, hcolon, hv⟩ := hm
  rw [readMembers, hk]
  simp only [bind, Except.bind, hcolon, hv, hcomma, h]
  rfl

end Steps

/-! ## Every text is read -/

/-- With fuel of twice its length, the characters are read as the piece that they are written for,
whatever follows them. -/
def Piece.Reads (cs : List Char) : Piece → Prop
  | .value v => ∀ fuel rest, 2 * cs.length ≤ fuel → Ends rest →
      readValue fuel (cs ++ rest) = .ok (v, rest)
  | .object ms => ∀ fuel rest, 2 * cs.length ≤ fuel →
      readValue fuel (cs ++ rest) = .ok (.object (distinct ms), rest)
  | .items vs => ∀ fuel rest, 2 * cs.length < fuel →
      readItems fuel (skipSpace (cs ++ ']' :: rest)) = .ok (vs, rest)
  | .member m => ∀ fuel rest, 2 * cs.length ≤ fuel → Ends rest →
      ∃ more, cs ++ rest = '\x22' :: more ∧ ReadsMember fuel more m.1 m.2 rest
  | .members ms => ∀ fuel rest, 2 * cs.length < fuel →
      readMembers fuel (skipSpace (cs ++ '\x7d' :: rest)) = .ok (ms, rest)

section Written

variable {p : Piece} {v : Json} {vs : List Json} {m : String × Json} {ms : List (String × Json)}
variable {cs rest : List Char}

theorem Written.head_object (h : Written (.object ms) cs) : ∃ more, cs = '\x7b' :: more := by
  cases h with
  | emptyObject hw => exact ⟨_, rfl⟩
  | object h => exact ⟨_, rfl⟩

theorem NumberText.head (h : NumberText v cs) :
    ∃ negative d more, cs = signed negative (d :: more) ∧ d.isDigit := by
  cases h with
  | @int negative ds h hlength =>
    obtain ⟨d, more, rfl, hd⟩ := h.exists_cons
    exact ⟨negative, d, more, rfl, hd⟩
  | @float negative ds fs es fraction exponent h hfraction hexponent hsome =>
    obtain ⟨d, more, rfl, hd⟩ := h.exists_cons
    exact ⟨negative, d, more ++ (fs ++ es), rfl, hd⟩

/-- The text of a value begins with no space, so nothing in front of it is taken for a part of
it, and it is not taken for the end of a list. -/
theorem Written.head_value (h : Written (.value v) cs) :
    ∃ c more, cs = c :: more ∧ ¬ isSpace c ∧ c ≠ ']' ∧ c ≠ '\ufeff' := by
  cases h with
  | number h =>
    obtain ⟨negative, d, more, rfl, hd⟩ := h.head
    cases negative with
    | true => exact ⟨'-', d :: more, rfl, by decide, by decide, by decide⟩
    | false =>
      refine ⟨d, more, rfl, ?_, ?_, ?_⟩
      · intro hspace
        rcases isSpace_iff.1 hspace with rfl | rfl | rfl | rfl <;> revert hd <;> decide
      all_goals
        rintro rfl
        revert hd
        decide
  | ofObject h =>
    obtain ⟨more, rfl⟩ := h.head_object
    exact ⟨_, more, rfl, by decide, by decide, by decide⟩
  | _ => exact ⟨_, _, rfl, by decide, by decide, by decide⟩

theorem skipSpace_value (h : Written (.value v) cs) (rest : List Char) :
    skipSpace (cs ++ rest) = cs ++ rest := by
  obtain ⟨c, more, rfl, hspace, -⟩ := h.head_value
  rw [List.cons_append, skipSpace_cons hspace]

theorem head_items (h : Written (.items vs) cs) (rest : List Char) :
    (skipSpace (cs ++ rest)).head? ≠ some ']' := by
  have hitem {w cs more : List Char} {v : Json} (hw : Spaces w) (hv : Written (.value v) cs) :
      (skipSpace (w ++ (cs ++ more))).head? ≠ some ']' := by
    rw [skipSpace_append hw, skipSpace_value hv]
    obtain ⟨c, more, rfl, -, hc, -⟩ := hv.head_value
    simpa using hc
  cases h with
  | lastItem hw hv hw' =>
    rw [List.append_assoc, List.append_assoc]
    exact hitem hw hv
  | item hw hv hw' hvs =>
    rw [List.append_assoc, List.append_assoc]
    exact hitem hw hv

theorem head_members (h : Written (.members ms) cs) (rest : List Char) :
    (skipSpace (cs ++ rest)).head? ≠ some '\x7d' := by
  have hmember {w cs more : List Char} {m : String × Json} (hw : Spaces w)
      (hm : Written (.member m) cs) : (skipSpace (w ++ (cs ++ more))).head? ≠ some '\x7d' := by
    rw [skipSpace_append hw]
    cases hm
    rw [List.cons_append, skipSpace_cons (by decide)]
    simp
  cases h with
  | lastMember hw hm hw' =>
    rw [List.append_assoc, List.append_assoc]
    exact hmember hw hm
  | consMember hw hm hw' hms =>
    rw [List.append_assoc, List.append_assoc]
    exact hmember hw hm

/-- Reading a text takes one step of fuel for its first character, and leaves enough for the
others. -/
theorem exists_fuel {c : Char} {fuel : Nat} (h : 2 * (c :: cs).length ≤ fuel) :
    ∃ n, fuel = n + 1 ∧ 2 * cs.length < n := by
  rw [List.length_cons] at h
  exact ⟨fuel - 1, by omega, by omega⟩

theorem reads_number (h : NumberText v cs) : (Piece.value v).Reads cs := by
  intro fuel rest hfuel hrest
  have hread := readNumber_of_text h hrest
  obtain ⟨negative, d, more, rfl, hd⟩ := h.head
  obtain ⟨n, rfl⟩ : ∃ n, fuel = n + 1 := by
    cases negative with
    | true => exact (exists_fuel hfuel).imp fun n hn => hn.1
    | false => exact (exists_fuel hfuel).imp fun n hn => hn.1
  rw [signed_append, List.cons_append] at hread ⊢
  rw [readValue_number negative hd, hread]

theorem reads_array (hitem : ∀ rest, (skipSpace (cs ++ rest)).head? ≠ some ']')
    (h : (Piece.items vs).Reads cs) : (Piece.value (.array vs)).Reads ('[' :: (cs ++ [']'])) := by
  intro fuel rest hfuel _
  obtain ⟨n, rfl, hn⟩ := exists_fuel hfuel
  rw [List.length_append] at hn
  rw [List.cons_append, List.append_assoc]
  exact readValue_array rfl (hitem _) (h n rest (by omega))

theorem reads_object (hmember : ∀ rest, (skipSpace (cs ++ rest)).head? ≠ some '\x7d')
    (h : (Piece.members ms).Reads cs) :
    (Piece.object ms).Reads ('\x7b' :: (cs ++ ['\x7d'])) := by
  intro fuel rest hfuel
  obtain ⟨n, rfl, hn⟩ := exists_fuel hfuel
  rw [List.length_append] at hn
  rw [List.cons_append, List.append_assoc]
  exact readValue_object rfl (hmember _) (h n rest (by omega))

/-- Every text of a piece is read as the piece. -/
theorem Written.reads (h : Written p cs) : p.Reads cs := by
  induction h with
  | number h => exact reads_number h
  | string h =>
    intro fuel rest hfuel _
    obtain ⟨n, rfl, -⟩ := exists_fuel hfuel
    rw [List.cons_append, List.append_assoc]
    exact readValue_string (readString_eq_ok.2 ⟨_, rfl, h⟩)
  | emptyArray hw =>
    intro fuel rest hfuel _
    obtain ⟨n, rfl, -⟩ := exists_fuel hfuel
    rw [List.cons_append, List.append_assoc, readValue, skipSpace_append hw]
    rfl
  | array h ih => exact reads_array (head_items h) ih
  | ofObject h ih =>
    intro fuel rest hfuel _
    exact ih fuel rest hfuel
  | emptyObject hw =>
    intro fuel rest hfuel
    obtain ⟨n, rfl, -⟩ := exists_fuel hfuel
    rw [List.cons_append, List.append_assoc, readValue, skipSpace_append hw]
    rfl
  | object h ih => exact reads_object (head_members h) ih
  | @lastItem v w cs w' hw hv hw' ih =>
    intro fuel rest hfuel
    simp only [List.length_append] at hfuel
    obtain ⟨n, rfl⟩ : ∃ n, fuel = n + 1 := Nat.exists_eq_add_one.2 (by omega)
    rw [List.append_assoc, List.append_assoc, skipSpace_append hw, skipSpace_value hv]
    refine readItems_last (ih n _ (by omega) (hw'.ends (ends_cons (by decide)))) ?_
    rw [skipSpace_append hw', skipSpace_cons (by decide)]
  | @item v vs w cs w' ds hw hv hw' hvs ih ihs =>
    intro fuel rest hfuel
    simp only [List.length_append, List.length_cons] at hfuel
    obtain ⟨n, rfl⟩ : ∃ n, fuel = n + 1 := Nat.exists_eq_add_one.2 (by omega)
    simp only [List.append_assoc, List.cons_append]
    rw [skipSpace_append hw, skipSpace_value hv]
    refine readItems_comma (ih n _ (by omega) (hw'.ends (ends_cons (by decide)))) ?_
      (ihs n rest (by omega))
    rw [skipSpace_append hw', skipSpace_cons (by decide)]
  | @member k v ks w w' cs hk hw hw' hv ih =>
    intro fuel rest hfuel hrest
    simp only [List.length_append, List.length_cons] at hfuel
    refine ⟨ks ++ '\x22' :: (w ++ ':' :: (w' ++ (cs ++ rest))), by simp, _, w' ++ (cs ++ rest),
      readString_eq_ok.2 ⟨_, rfl, hk⟩, ?_, ?_⟩
    · rw [skipSpace_append hw, skipSpace_cons (by decide)]
    · rw [skipSpace_append hw', skipSpace_value hv]
      exact ih fuel rest (by omega) hrest
  | @lastMember m w cs w' hw hm hw' ih =>
    intro fuel rest hfuel
    simp only [List.length_append] at hfuel
    obtain ⟨n, rfl⟩ : ∃ n, fuel = n + 1 := Nat.exists_eq_add_one.2 (by omega)
    obtain ⟨more, htext, hread⟩ := ih n (w' ++ '\x7d' :: rest) (by omega)
      (hw'.ends (ends_cons (by decide)))
    rw [List.append_assoc, List.append_assoc, skipSpace_append hw, htext,
      skipSpace_cons (by decide)]
    refine readMembers_last hread ?_
    rw [skipSpace_append hw', skipSpace_cons (by decide)]
  | @consMember m ms w cs w' ds hw hm hw' hms ih ihs =>
    intro fuel rest hfuel
    simp only [List.length_append, List.length_cons] at hfuel
    obtain ⟨n, rfl⟩ : ∃ n, fuel = n + 1 := Nat.exists_eq_add_one.2 (by omega)
    obtain ⟨more, htext, hread⟩ := ih n (w' ++ ',' :: (ds ++ '\x7d' :: rest)) (by omega)
      (hw'.ends (ends_cons (by decide)))
    simp only [List.append_assoc, List.cons_append]
    rw [skipSpace_append hw, htext, skipSpace_cons (by decide)]
    refine readMembers_comma hread ?_ (ihs n rest (by omega))
    rw [skipSpace_append hw', skipSpace_cons (by decide)]
  | _ =>
    -- A word is read by its letters.
    intro fuel rest hfuel _
    obtain ⟨n, rfl, -⟩ := exists_fuel hfuel
    rfl

end Written

/-! ## Nothing else is read -/

section Sound

variable {α β : Type} {v : Json} {vs : List Json} {ms : List (String × Json)}
variable {w cs rest : List Char}

theorem Written.items_append (hw : Spaces w) (h : Written (.items vs) cs) :
    Written (.items vs) (w ++ cs) := by
  cases h with
  | lastItem hw' hv hbehind =>
    rw [← List.append_assoc]
    exact .lastItem (hw.append hw') hv hbehind
  | item hw' hv hbehind hvs =>
    rw [← List.append_assoc]
    exact .item (hw.append hw') hv hbehind hvs

theorem Written.members_append (hw : Spaces w) (h : Written (.members ms) cs) :
    Written (.members ms) (w ++ cs) := by
  cases h with
  | lastMember hw' hm hbehind =>
    rw [← List.append_assoc]
    exact .lastMember (hw.append hw') hm hbehind
  | consMember hw' hm hbehind hms =>
    rw [← List.append_assoc]
    exact .consMember (hw.append hw') hm hbehind hms

/-- What is read with this fuel stands there in writing. -/
structure Sound (fuel : Nat) : Prop where
  value : ∀ {cs rest v}, readValue fuel cs = .ok (v, rest) →
    ∃ text, cs = text ++ rest ∧ Written (.value v) text
  items : ∀ {cs rest vs}, readItems fuel cs = .ok (vs, rest) →
    ∃ text, cs = text ++ ']' :: rest ∧ Written (.items vs) text
  members : ∀ {cs rest ms}, readMembers fuel cs = .ok (ms, rest) →
    ∃ text, cs = text ++ '\x7d' :: rest ∧ Written (.members ms) text

variable {fuel : Nat}

theorem Sound.value_succ (hs : Sound fuel) (h : readValue (fuel + 1) cs = .ok (v, rest)) :
    ∃ text, cs = text ++ rest ∧ Written (.value v) text := by
  rw [readValue.eq_def] at h
  simp only at h
  split at h
  · obtain ⟨⟨s, behind⟩, hs, hend⟩ := Outcome.bind_eq_ok_iff.1 h
    cases hend
    obtain ⟨text, rfl, htext⟩ := readString_eq_ok.1 hs
    exact ⟨_, by simp, .string htext⟩
  · rename_i inside
    obtain ⟨w, hinside, hw⟩ := exists_spaces inside
    split at h
    · rename_i behind heq
      cases h
      rw [hinside, heq]
      exact ⟨'\x7b' :: (w ++ ['\x7d']), by simp, .ofObject (.emptyObject hw)⟩
    · obtain ⟨⟨ms, behind⟩, hms, hend⟩ := Outcome.bind_eq_ok_iff.1 h
      cases hend
      obtain ⟨text, htext, hwritten⟩ := hs.members hms
      rw [hinside, htext]
      exact ⟨'\x7b' :: (w ++ text ++ ['\x7d']), by simp,
        .ofObject (.object (hwritten.members_append hw))⟩
  · rename_i inside
    obtain ⟨w, hinside, hw⟩ := exists_spaces inside
    split at h
    · rename_i behind heq
      cases h
      rw [hinside, heq]
      exact ⟨'[' :: (w ++ [']']), by simp, .emptyArray hw⟩
    · obtain ⟨⟨vs, behind⟩, hvs, hend⟩ := Outcome.bind_eq_ok_iff.1 h
      cases hend
      obtain ⟨text, htext, hwritten⟩ := hs.items hvs
      rw [hinside, htext]
      exact ⟨'[' :: (w ++ text ++ [']']), by simp, .array (hwritten.items_append hw)⟩
  · cases h
    exact ⟨_, rfl, .null⟩
  · cases h
    exact ⟨_, rfl, .true⟩
  · cases h
    exact ⟨_, rfl, .false⟩
  · cases h
    exact ⟨_, rfl, .notANumber⟩
  · cases h
    exact ⟨_, rfl, .infinity⟩
  · cases h
    exact ⟨_, rfl, .minusInfinity⟩
  · obtain ⟨text, htext, hnumber⟩ := text_of_readNumber h
    exact ⟨text, htext, .number hnumber⟩

theorem Sound.items_succ (hs : Sound fuel) (h : readItems (fuel + 1) cs = .ok (vs, rest)) :
    ∃ text, cs = text ++ ']' :: rest ∧ Written (.items vs) text := by
  rw [readItems] at h
  obtain ⟨⟨v, behind⟩, hv, hmore⟩ := Outcome.bind_eq_ok_iff.1 h
  obtain ⟨text, hcs, htext⟩ := hs.value hv
  obtain ⟨w, hbehind, hw⟩ := exists_spaces behind
  simp only at hmore
  split at hmore
  · rename_i heq
    cases hmore
    refine ⟨[] ++ (text ++ w), ?_, .lastItem .nil htext hw⟩
    rw [hcs, hbehind, heq]
    simp
  · rename_i more heq
    obtain ⟨⟨vs', behind'⟩, hvs, hend⟩ := Outcome.bind_eq_ok_iff.1 hmore
    cases hend
    obtain ⟨items, hitems, hwritten⟩ := hs.items hvs
    obtain ⟨w', hspaces, hw'⟩ := exists_spaces more
    refine ⟨[] ++ (text ++ (w ++ ',' :: (w' ++ items))), ?_,
      .item .nil htext hw (hwritten.items_append hw')⟩
    rw [hcs, hbehind, heq, hspaces, hitems]
    simp
  · cases hmore

theorem Sound.members_succ (hs : Sound fuel) (h : readMembers (fuel + 1) cs = .ok (ms, rest)) :
    ∃ text, cs = text ++ '\x7d' :: rest ∧ Written (.members ms) text := by
  rw [readMembers.eq_def] at h
  simp only at h
  split at h
  case h_2 => cases h
  obtain ⟨⟨k, afterName⟩, hk, hcolon⟩ := Outcome.bind_eq_ok_iff.1 h
  obtain ⟨name, rfl, hname⟩ := readString_eq_ok.1 hk
  obtain ⟨w, hafter, hw⟩ := exists_spaces afterName
  simp only at hcolon
  split at hcolon
  case h_2 => cases hcolon
  rename_i beforeValue heqColon
  obtain ⟨⟨v, behind⟩, hv, hmore⟩ := Outcome.bind_eq_ok_iff.1 hcolon
  obtain ⟨text, htext, hvalue⟩ := hs.value hv
  obtain ⟨w', hbefore, hw'⟩ := exists_spaces beforeValue
  obtain ⟨w'', hbehind, hw''⟩ := exists_spaces behind
  have hmember := Written.member hname hw hw' hvalue
  simp only at hmore
  split at hmore
  · rename_i heq
    cases hmore
    refine ⟨_, ?_, .lastMember .nil hmember hw''⟩
    rw [hafter, heqColon, hbefore, htext, hbehind, heq]
    simp
  · rename_i more heq
    obtain ⟨⟨ms', behind'⟩, hms, hend⟩ := Outcome.bind_eq_ok_iff.1 hmore
    cases hend
    obtain ⟨members, hmembers, hwritten⟩ := hs.members hms
    obtain ⟨w₃, hspaces, hw₃⟩ := exists_spaces more
    refine ⟨_, ?_, .consMember .nil hmember hw'' (hwritten.members_append hw₃)⟩
    rw [hafter, heqColon, hbefore, htext, hbehind, heq, hspaces, hmembers]
    simp
  · cases hmore

theorem sound (fuel : Nat) : Sound fuel := by
  induction fuel with
  | zero => exact ⟨nofun, nofun, nofun⟩
  | succ fuel ih => exact ⟨ih.value_succ, ih.items_succ, ih.members_succ⟩

end Sound

/-! ## Whole texts -/

section Texts

variable {p : Piece} {v : Json} {ms : List (String × Json)} {text : String} {cs : List Char}

theorem Spaces.ends_nil {w : List Char} (hw : Spaces w) : Ends w := by
  have hnil : Ends [] := nofun
  simpa using hw.ends hnil

theorem skipSpace_spaces {w : List Char} (hw : Spaces w) : skipSpace w = [] := by
  simpa [skipSpace] using @skipSpace_append w [] hw

/-- No byte order mark stands in front of a text. -/
theorem head?_text {w rest : List Char} (hw : Spaces w) (hcs : Written (.value v) cs) :
    (w ++ (cs ++ rest)).head? ≠ some '\ufeff' := by
  cases w with
  | nil =>
    obtain ⟨c, more, rfl, -, -, hc⟩ := hcs.head_value
    simpa using hc
  | cons c w =>
    have hc := hw c List.mem_cons_self
    rintro ⟨⟩
    revert hc
    decide

theorem readAll_eq_ok : readAll cs = .ok v ↔
    ∃ w value w', Spaces w ∧ Written (.value v) value ∧ Spaces w' ∧ cs = w ++ (value ++ w') := by
  constructor
  · intro h
    rw [readAll] at h
    split at h
    · cases h
    obtain ⟨⟨v', behind⟩, hread, hend⟩ := Outcome.bind_eq_ok_iff.1 h
    obtain ⟨value, hvalue, hwritten⟩ := (sound _).value hread
    obtain ⟨w, hcs, hw⟩ := exists_spaces cs
    obtain ⟨w', hbehind, hw'⟩ := exists_spaces behind
    simp only at hend
    split at hend
    · rename_i hempty
      cases hend
      rw [List.isEmpty_iff.1 hempty, List.append_nil] at hbehind
      exact ⟨w, value, w', hw, hwritten, hw', by rw [← hbehind, ← hvalue, ← hcs]⟩
    · cases hend
  · rintro ⟨w, value, w', hw, hwritten, hw', rfl⟩
    have hread := hwritten.reads (2 * (w ++ (value ++ w')).length + 2) w' (by simp; omega)
      hw'.ends_nil
    rw [readAll, if_neg (head?_text hw hwritten), skipSpace_append hw, skipSpace_value hwritten,
      hread]
    simp only [bind, Except.bind, skipSpace_spaces hw']
    rfl

/-- **The texts of a value are those that are read as it.** -/
theorem read_eq_ok : read text = .ok v ↔ TextOf (.value v) text := by
  have hall : read text = .ok v ↔ readAll text.toList = .ok v := by
    rw [read]
    cases readAll text.toList with
    | error e => exact iff_of_false nofun nofun
    | ok w =>
      show (.ok w : Except ReadError Json) = .ok v ↔ _
      rw [Except.ok.injEq, Except.ok.injEq]
  exact hall.trans readAll_eq_ok

/-- An object keeps the last member of each name. -/
theorem read_of_object (h : TextOf (.object ms) text) :
    read text = .ok (.object (distinct ms)) := by
  obtain ⟨w, cs, w', hw, hcs, hw', htext⟩ := h
  exact read_eq_ok.2 ⟨w, cs, w', hw, .ofObject hcs, hw', htext⟩

end Texts

end Cnd.Json
