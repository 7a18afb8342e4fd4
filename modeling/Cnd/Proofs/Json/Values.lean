import Mathlib.Data.List.Induction
import Cnd.Proofs.Json.Strings
import Cnd.Proofs.Json.Texts

/-!
# Values come back from JSON

With every indent, what is printed for a value without numbers is one of its texts: between its
parts the printer puts new lines and blanks, or nothing (`Plain.written`). So it is read as that
value (`read_render`).
-/

namespace Cnd.Json

/-- A value without numbers, in which no object has two members of one name. -/
inductive Plain : Json → Prop
  | null : Plain .null
  | bool (b : Bool) : Plain (.bool b)
  | string (s : String) : Plain (.string s)
  | array {items : List Json} (h : ∀ v ∈ items, Plain v) : Plain (.array items)
  | object {members : List (String × Json)} (hnodup : (members.map (·.1)).Nodup)
      (h : ∀ m ∈ members, Plain m.2) : Plain (.object members)

/-! ## Objects -/

theorem insert_of_not_mem {α : Type} {key : String} {value : α} {l : List (String × α)}
    (h : key ∉ l.map (·.1)) : insert key value l = l ++ [(key, value)] := by
  induction l with
  | nil => rfl
  | cons m l ih =>
    rw [List.map_cons, List.mem_cons, not_or] at h
    rw [insert, if_neg (Ne.symm h.1), ih h.2]
    rfl

theorem foldl_insert_of_nodup {α : Type} {done members : List (String × α)}
    (h : ((done ++ members).map (·.1)).Nodup) :
    members.foldl (fun done m => insert m.1 m.2 done) done = done ++ members := by
  induction members generalizing done with
  | nil => simp
  | cons m members ih =>
    have hm : m.1 ∉ done.map (·.1) := by
      intro hmem
      rw [List.map_append, List.nodup_append] at h
      exact h.2.2 m.1 hmem m.1 (by simp) rfl
    rw [List.foldl_cons, insert_of_not_mem hm, ih (by simpa using h)]
    simp

/-- Members of different names are all kept. -/
theorem distinct_of_nodup {α : Type} {members : List (String × α)}
    (h : (members.map (·.1)).Nodup) : distinct members = members :=
  foldl_insert_of_nodup h

section Members

variable {α : Type} {key k : String} {value v : α} {l l' : List (String × α)}

theorem member?_cons (m : String × α) (l : List (String × α)) :
    member? k (m :: l) = if k = m.1 then some m.2 else member? k l := by
  obtain ⟨first, u⟩ := m
  by_cases hk : k = first
  · simp [member?, hk]
  · simp [member?, List.lookup_cons, hk, beq_eq_false_iff_ne.2 hk]

theorem member?_append : member? k (l ++ l') = (member? k l).or (member? k l') :=
  List.lookup_append

theorem member?_eq_none : member? k l = none ↔ k ∉ l.map (·.1) := by
  rw [member?, List.lookup_eq_none_iff, List.mem_map]
  constructor
  · rintro h ⟨m, hm, rfl⟩
    simpa using h m hm
  · intro h m hm
    simpa using fun heq => h ⟨m, hm, heq.symm⟩

/-- A member is found behind others of other names. -/
theorem member?_append_cons (hkey : member? key l = none) :
    member? key (l ++ (key, value) :: l') = some value := by
  rw [member?_append, hkey, Option.none_or, member?_cons, if_pos rfl]

/-- What a member has no say in is found without it. -/
theorem member?_of_ne (hk : k ≠ key) :
    member? k (l ++ (key, value) :: l') = member? k (l ++ l') := by
  rw [member?_append, member?_cons, if_neg hk, member?_append]

theorem member?_insert :
    member? k (insert key value l) = if k = key then some value else member? k l := by
  induction l with
  | nil => exact member?_cons (key, value) []
  | cons m l ih =>
    obtain ⟨first, u⟩ := m
    rw [insert]
    split
    · rename_i hfirst
      subst hfirst
      rw [member?_cons, member?_cons]
      split <;> rfl
    · rename_i hfirst
      rw [member?_cons, member?_cons, ih]
      by_cases hk : k = first
      · have hkey : k ≠ key := hk ▸ hfirst
        rw [if_pos hk, if_neg hkey, if_pos hk]
      · rw [if_neg hk, if_neg hk]

/-- Of all members of a name, the last one is kept. -/
theorem member?_distinct (ms : List (String × α)) :
    member? k (distinct ms) = member? k ms.reverse := by
  induction ms using List.reverseRecOn with
  | nil => rfl
  | append_singleton ms m ih =>
    have hdistinct : distinct (ms ++ [m]) = insert m.1 m.2 (distinct ms) := by
      rw [distinct, List.foldl_append]
      rfl
    rw [hdistinct, member?_insert, ih, List.reverse_concat, member?_cons]

theorem member?_eq_some (hnodup : (l.map (·.1)).Nodup) :
    member? k l = some v ↔ (k, v) ∈ l := by
  rw [member?, List.lookup_eq_some_iff]
  constructor
  · rintro ⟨before, behind, rfl, -⟩
    simp
  · intro hmem
    obtain ⟨before, behind, rfl⟩ := List.append_of_mem hmem
    refine ⟨before, behind, rfl, fun m hm => ?_⟩
    rw [List.map_append, List.nodup_append] at hnodup
    simpa using (hnodup.2.2 m.1 (List.mem_map_of_mem hm) k (by simp)).symm

/-- The order of the members does not matter. -/
theorem member?_perm (h : l.Perm l') (hnodup : (l.map (·.1)).Nodup) :
    member? k l' = member? k l := by
  have hnodup' : (l'.map (·.1)).Nodup := (h.map _).nodup_iff.1 hnodup
  refine Option.ext fun v => ?_
  rw [member?_eq_some hnodup', member?_eq_some hnodup, h.mem_iff]

end Members

/-! ## What the printer writes -/

section Printed

variable {indent : Option Nat} {depth depth' : Nat} {v : Json} {k : String} {vs : List Json}
variable {ms : List (String × Json)}

theorem spaces_lineStart (indent : Option Nat) (depth : Nat) : Spaces (lineStart indent depth) := by
  intro c hc
  cases indent with
  | none => cases hc
  | some n =>
    rcases List.mem_cons.1 hc with rfl | hc
    · decide
    · rw [List.eq_of_mem_replicate hc]
      decide

/-- Behind the colon there may be spaces. -/
theorem exists_colon (indent : Option Nat) : ∃ w, colon indent = ':' :: w ∧ Spaces w := by
  cases indent with
  | none => exact ⟨[], rfl, .nil⟩
  | some n => exact ⟨[' '], rfl, List.forall_mem_singleton.2 (by decide)⟩

theorem written_member (hv : Written (.value v) (renderAt indent depth v)) (k : String) :
    Written (.member (k, v)) (renderString k ++ (colon indent ++ renderAt indent depth v)) := by
  obtain ⟨w, hcolon, hw⟩ := exists_colon indent
  have hmember := Written.member (spelled_flatMap k.toList) .nil hw hv
  simpa [renderString, hcolon] using hmember

/-- The items of a list are written up to its end. -/
theorem written_items (depth' : Nat)
    (h : ∀ w ∈ v :: vs, Written (.value w) (renderAt indent depth w)) :
    Written (.items (v :: vs)) (lineStart indent depth ++ (renderAt indent depth v ++
      (renderItems indent depth vs ++ lineStart indent depth'))) := by
  induction vs generalizing v with
  | nil => exact .lastItem (spaces_lineStart _ _) (h v (by simp)) (spaces_lineStart _ _)
  | cons w vs ih =>
    have hmore := ih fun u hu => h u (List.mem_cons_of_mem _ hu)
    have hitems := Written.item (spaces_lineStart indent depth) (h v (by simp)) .nil hmore
    simpa [renderItems] using hitems

/-- The members of an object are written up to its end. -/
theorem written_members (depth' : Nat)
    (h : ∀ m ∈ (k, v) :: ms, Written (.value m.2) (renderAt indent depth m.2)) :
    Written (.members ((k, v) :: ms)) (lineStart indent depth ++ (renderString k ++ (colon indent ++
      (renderAt indent depth v ++ (renderMembers indent depth ms ++
        lineStart indent depth'))))) := by
  have hmember := written_member (h (k, v) (by simp)) k
  induction ms generalizing k v with
  | nil =>
    have hlast := Written.lastMember (spaces_lineStart indent depth) hmember
      (spaces_lineStart indent depth')
    simpa [renderMembers] using hlast
  | cons m ms ih =>
    obtain ⟨l, w⟩ := m
    have hmore := ih (fun u hu => h u (List.mem_cons_of_mem _ hu))
      (written_member (h (l, w) (by simp)) l)
    have hmembers := Written.consMember (spaces_lineStart indent depth) hmember .nil hmore
    simpa [renderMembers] using hmembers

/-- What is printed for a value is one of its texts. -/
theorem Plain.written (h : Plain v) (indent : Option Nat) (depth : Nat) :
    Written (.value v) (renderAt indent depth v) := by
  induction h generalizing depth with
  | null => rw [renderAt]; exact .null
  | bool b =>
    cases b with
    | false => rw [renderAt]; exact .false
    | true => rw [renderAt]; exact .true
  | string s =>
    rw [renderAt]
    exact .string (spelled_flatMap s.toList)
  | @array items h ih =>
    cases items with
    | nil =>
      rw [renderAt]
      exact .emptyArray .nil
    | cons v vs =>
      have hitems := written_items depth fun w hw => ih w hw (depth + 1)
      simpa [renderAt] using Written.array hitems
  | @object members hnodup h ih =>
    have hobject {cs : List Char} (hcs : Written (.object members) cs) :
        Written (.value (.object members)) cs := by
      have hvalue := Written.ofObject hcs
      rwa [distinct_of_nodup hnodup] at hvalue
    rcases members with _ | ⟨⟨k, v⟩, ms⟩
    · rw [renderAt]
      exact hobject (.emptyObject .nil)
    · have hmembers := written_members depth fun m hm => ih m hm (depth + 1)
      have hvalue := hobject (.object hmembers)
      simpa [renderAt] using hvalue

/-- A value without numbers comes back from its text. -/
theorem read_render (h : Plain v) (indent : Option Nat) : read (render indent v) = .ok v := by
  refine read_eq_ok.2 ⟨[], _, [], .nil, h.written indent 0, .nil, ?_⟩
  rw [render, String.toList_ofList, List.nil_append, List.append_nil]

end Printed

/-! ## Line ends -/

section LineEnds

variable {indent : Option Nat} {depth : Nat}

theorem not_mem_hexDigits (width n : Nat) : '\r' ∉ Text.hexDigits width n := by
  have hdigit : ∀ d < 16, '\r' ≠ Nat.digitChar d := by decide
  induction width generalizing n with
  | zero => exact List.not_mem_nil
  | succ width ih =>
    rw [Text.hexDigits, List.mem_append, List.mem_singleton, not_or]
    exact ⟨ih _, hdigit _ (Nat.mod_lt _ (by decide))⟩

theorem not_mem_unitEscape (n : Nat) : '\r' ∉ unitEscape n := by
  simp [unitEscape, not_mem_hexDigits]

theorem not_mem_escape (c : Char) : '\r' ∉ escape c := by
  unfold escape
  iterate 7
    split
    · decide
  split
  · rename_i hplain
    intro hmem
    rw [← List.mem_singleton.1 hmem] at hplain
    exact absurd hplain (by decide)
  split
  · exact not_mem_unitEscape _
  · simp [not_mem_unitEscape]

theorem not_mem_renderString (s : String) : '\r' ∉ renderString s := by
  simp [renderString, not_mem_escape]

theorem not_mem_lineStart : '\r' ∉ lineStart indent depth := by
  cases indent with
  | none => exact List.not_mem_nil
  | some n =>
    rw [lineStart, List.mem_cons, not_or]
    exact ⟨by decide, fun h => absurd (List.eq_of_mem_replicate h) (by decide)⟩

theorem not_mem_colon : '\r' ∉ colon indent := by
  rw [colon]
  split <;> decide

theorem not_mem_renderItems {vs : List Json}
    (h : ∀ v ∈ vs, ∀ indent depth, '\r' ∉ renderAt indent depth v) :
    '\r' ∉ renderItems indent depth vs := by
  induction vs with
  | nil => exact List.not_mem_nil
  | cons v vs ih =>
    have hv := h v List.mem_cons_self indent depth
    have hvs := ih fun w hw => h w (List.mem_cons_of_mem _ hw)
    simp [renderItems, hv, hvs, not_mem_lineStart]

theorem not_mem_renderMembers {ms : List (String × Json)}
    (h : ∀ m ∈ ms, ∀ indent depth, '\r' ∉ renderAt indent depth m.2) :
    '\r' ∉ renderMembers indent depth ms := by
  induction ms with
  | nil => exact List.not_mem_nil
  | cons m ms ih =>
    have hm := h m List.mem_cons_self indent depth
    have hms := ih fun w hw => h w (List.mem_cons_of_mem _ hw)
    simp [renderMembers, hm, hms, not_mem_lineStart, not_mem_renderString, not_mem_colon]

theorem not_mem_renderAt {v : Json} (h : Plain v) (indent : Option Nat) (depth : Nat) :
    '\r' ∉ renderAt indent depth v := by
  induction h generalizing indent depth with
  | null => rw [renderAt]; decide
  | bool b => cases b <;> rw [renderAt] <;> decide
  | string s => exact not_mem_renderString s
  | @array items h ih =>
    cases items with
    | nil => rw [renderAt]; decide
    | cons v vs =>
      have hv := ih v List.mem_cons_self indent (depth + 1)
      have hvs : '\r' ∉ renderItems indent (depth + 1) vs :=
        not_mem_renderItems fun w hw => ih w (List.mem_cons_of_mem _ hw)
      simp [renderAt, hv, hvs, not_mem_lineStart]
  | @object members hnodup h ih =>
    rcases members with _ | ⟨⟨k, v⟩, ms⟩
    · rw [renderAt]; decide
    · have hv := ih (k, v) List.mem_cons_self indent (depth + 1)
      have hms : '\r' ∉ renderMembers indent (depth + 1) ms :=
        not_mem_renderMembers fun m hm => ih m (List.mem_cons_of_mem _ hm)
      simp [renderAt, hv, hms, not_mem_lineStart, not_mem_renderString, not_mem_colon]

/-- A text has no carriage return, whatever the strings in it have. -/
theorem not_mem_render {v : Json} (h : Plain v) (indent : Option Nat) :
    '\r' ∉ (render indent v).toList := by
  rw [render, String.toList_ofList]
  exact not_mem_renderAt h indent 0

end LineEnds

end Cnd.Json
