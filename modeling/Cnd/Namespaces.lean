/-!
# Namespace mappings

The mappings from prefixes to URIs, in the order in which the prefixes first came. A prefix
that is mapped again keeps its place and takes the new URI.
-/

namespace Cnd

/-- A list of prefixes and their URIs, no prefix twice. -/
structure Namespaces where
  entries : List (String × String)
  nodup : (entries.map (·.1)).Nodup
deriving DecidableEq

namespace Namespaces

/-- The mappings in order are all there is to it. -/
@[ext] theorem ext {ns other : Namespaces} (h : ns.entries = other.entries) : ns = other := by
  cases ns
  cases other
  cases h
  rfl

def empty : Namespaces := ⟨[], List.nodup_nil⟩

instance : Inhabited Namespaces := ⟨empty⟩

/-- Maps `key` to `uri`: in its place if it is mapped already, at the end if not. -/
def insertEntry (key uri : String) : List (String × String) → List (String × String)
  | [] => [(key, uri)]
  | (k, u) :: rest => if k = key then (k, uri) :: rest else (k, u) :: insertEntry key uri rest

theorem mem_keys_insertEntry {key uri k : String} {l : List (String × String)} :
    k ∈ (insertEntry key uri l).map (·.1) ↔ k = key ∨ k ∈ l.map (·.1) := by
  induction l with
  | nil => simp [insertEntry]
  | cons e rest ih =>
    rw [insertEntry]
    split
    · rename_i h; simp [h]
    · simp only [List.map_cons, List.mem_cons, ih]
      constructor
      · rintro (h | h | h) <;> simp [h]
      · rintro (h | h | h) <;> simp [h]

theorem nodup_insertEntry {key uri : String} {l : List (String × String)}
    (h : (l.map (·.1)).Nodup) : ((insertEntry key uri l).map (·.1)).Nodup := by
  induction l with
  | nil => simp [insertEntry]
  | cons e rest ih =>
    rw [List.map_cons, List.nodup_cons] at h
    rw [insertEntry]
    split
    · exact List.nodup_cons.2 h
    · rename_i hne
      refine List.nodup_cons.2 ⟨fun hm => ?_, ih h.2⟩
      rcases mem_keys_insertEntry.1 hm with rfl | hm
      · exact hne rfl
      · exact h.1 hm

def insert (ns : Namespaces) (key uri : String) : Namespaces :=
  ⟨insertEntry key uri ns.entries, nodup_insertEntry ns.nodup⟩

theorem insertEntry_of_not_mem {key uri : String} {l : List (String × String)}
    (h : key ∉ l.map (·.1)) : insertEntry key uri l = l ++ [(key, uri)] := by
  induction l with
  | nil => rfl
  | cons e rest ih =>
    rw [List.map_cons, List.mem_cons, not_or] at h
    rw [insertEntry, if_neg (Ne.symm h.1), ih h.2]
    rfl

/-- The mappings of a list, one after the other. -/
def ofList (l : List (String × String)) : Namespaces :=
  l.foldl (fun ns e => ns.insert e.1 e.2) empty

/-- These mappings, changed and continued by `later`. -/
def update (ns later : Namespaces) : Namespaces :=
  later.entries.foldl (fun ns e => ns.insert e.1 e.2) ns

/-- Mappings that are all new come behind the others. -/
theorem entries_foldl_insert {l : List (String × String)} {ns : Namespaces}
    (h : ((ns.entries ++ l).map (·.1)).Nodup) :
    (l.foldl (fun ns e => ns.insert e.1 e.2) ns).entries = ns.entries ++ l := by
  induction l generalizing ns with
  | nil => simp
  | cons e l ih =>
    have he : e.1 ∉ ns.entries.map (·.1) := by
      intro hmem
      rw [List.map_append, List.nodup_append] at h
      exact h.2.2 e.1 hmem e.1 (by simp) rfl
    have hentries : (ns.insert e.1 e.2).entries = ns.entries ++ [e] :=
      insertEntry_of_not_mem he
    rw [List.foldl_cons, ih (by rw [hentries]; simpa using h), hentries]
    simp

/-- The mappings of `ns`, taken over in order, are `ns` again. -/
theorem ofList_entries (ns : Namespaces) : ofList ns.entries = ns :=
  ext (@entries_foldl_insert ns.entries empty ns.nodup)

def find? (ns : Namespaces) (key : String) : Option String := ns.entries.lookup key

def keys (ns : Namespaces) : List String := ns.entries.map (·.1)

theorem mem_keys_insert {ns : Namespaces} {key uri k : String} :
    k ∈ (ns.insert key uri).keys ↔ k = key ∨ k ∈ ns.keys :=
  mem_keys_insertEntry

/-! ## Mapping again -/

section Again

variable {ns later : Namespaces} {key key' uri uri' : String}

theorem insertEntry_of_mem {l : List (String × String)} (hnodup : (l.map (·.1)).Nodup)
    (h : key ∈ l.map (·.1)) :
    insertEntry key uri l = l.map fun e => if e.1 = key then (key, uri) else e := by
  induction l with
  | nil => cases h
  | cons e l ih =>
    rw [List.map_cons, List.nodup_cons] at hnodup
    rw [insertEntry, List.map_cons]
    by_cases he : e.1 = key
    · rw [if_pos he, if_pos he, he]
      have hrest : ∀ d ∈ l, ¬ d.1 = key := by
        rintro d hd rfl
        exact hnodup.1 (he ▸ List.mem_map_of_mem hd)
      rw [List.map_congr_left fun d hd => if_neg (hrest d hd), List.map_id']
    · have hmem : key ∈ l.map (·.1) := (List.mem_cons.1 h).resolve_left (Ne.symm he)
      rw [if_neg he, if_neg he, ih hnodup.2 hmem]

theorem insert_insert : (ns.insert key uri').insert key uri = ns.insert key uri := by
  refine ext ?_
  show insertEntry key uri (insertEntry key uri' ns.entries) = insertEntry key uri ns.entries
  induction ns.entries with
  | nil => simp [insertEntry]
  | cons e l ih =>
    by_cases he : e.1 = key
    · simp [insertEntry, he]
    · simp [insertEntry, he, ih]

/-- A prefix that is mapped already may be mapped again sooner or later. -/
theorem insert_comm (hne : key' ≠ key) (hmem : key ∈ ns.keys) :
    (ns.insert key' uri').insert key uri = (ns.insert key uri).insert key' uri' := by
  refine ext ?_
  show insertEntry key uri (insertEntry key' uri' ns.entries) =
    insertEntry key' uri' (insertEntry key uri ns.entries)
  rw [keys] at hmem
  generalize ns.entries = l at hmem ⊢
  induction l with
  | nil => cases hmem
  | cons e l ih =>
    by_cases he : e.1 = key
    · subst he
      simp [insertEntry, hne.symm]
    · have hl : key ∈ l.map (·.1) := (List.mem_cons.1 hmem).resolve_left (Ne.symm he)
      by_cases he' : e.1 = key'
      · subst he'
        simp [insertEntry, hne]
      · simp [insertEntry, he, he', ih hl]

theorem foldl_insert_comm {l : List (String × String)} (hfresh : key ∉ l.map (·.1))
    (hmem : key ∈ ns.keys) :
    (l.foldl (fun ns e => ns.insert e.1 e.2) ns).insert key uri =
      l.foldl (fun ns e => ns.insert e.1 e.2) (ns.insert key uri) := by
  induction l generalizing ns with
  | nil => rfl
  | cons e l ih =>
    rw [List.map_cons, List.mem_cons, not_or] at hfresh
    rw [List.foldl_cons, List.foldl_cons, ih hfresh.2 (mem_keys_insert.2 (.inr hmem)),
      insert_comm (Ne.symm hfresh.1) hmem]

/-- What is mapped last may be mapped in the later mappings or behind them. -/
theorem update_insert : ns.update (later.insert key uri) = (ns.update later).insert key uri := by
  obtain ⟨l, hnodup⟩ := later
  show (insertEntry key uri l).foldl _ ns = (l.foldl _ ns).insert key uri
  induction l generalizing ns with
  | nil => rfl
  | cons e l ih =>
    rw [List.map_cons, List.nodup_cons] at hnodup
    rw [insertEntry]
    by_cases he : e.1 = key
    · subst he
      have hmem : e.1 ∈ (ns.insert e.1 e.2).keys := mem_keys_insert.2 (.inl rfl)
      rw [if_pos rfl, List.foldl_cons, List.foldl_cons, foldl_insert_comm hnodup.1 hmem,
        insert_insert]
    · rw [if_neg he, List.foldl_cons, List.foldl_cons, ih hnodup.2]

theorem update_empty : ns.update empty = ns := rfl

/-- A prefix that is mapped already keeps its place and takes the later URI; the prefixes that are
new come behind, in their order. -/
theorem entries_update : (ns.update later).entries =
    (ns.entries.map fun e => (e.1, (later.find? e.1).getD e.2)) ++
      later.entries.filter fun e => e.1 ∉ ns.keys := by
  obtain ⟨l, hnodup⟩ := later
  show (l.foldl _ ns).entries =
    (ns.entries.map fun e => (e.1, (l.lookup e.1).getD e.2)) ++ l.filter fun e => e.1 ∉ ns.keys
  induction l generalizing ns with
  | nil => simp
  | cons e l ih =>
    obtain ⟨key, uri⟩ := e
    rw [List.map_cons, List.nodup_cons] at hnodup
    have hrest : ∀ d ∈ l, d.1 ≠ key := fun d hd heq =>
      hnodup.1 (List.mem_map.2 ⟨d, hd, heq⟩)
    have hnone : l.lookup key = none :=
      List.lookup_eq_none_iff.2 fun d hd => by simpa using (hrest d hd).symm
    have hother (e : String × String) (he : e.1 ≠ key) :
        ((key, uri) :: l).lookup e.1 = l.lookup e.1 := by
      rw [List.lookup_cons, beq_eq_false_iff_ne.2 he]
    rw [List.foldl_cons, ih hnodup.2]
    by_cases hmem : key ∈ ns.keys
    · have hentries : (ns.insert key uri).entries =
          ns.entries.map fun e => if e.1 = key then (key, uri) else e :=
        insertEntry_of_mem ns.nodup hmem
      rw [hentries, List.map_map, List.filter_cons_of_neg (by simpa using hmem)]
      congr 1
      · refine List.map_congr_left fun e _ => ?_
        by_cases hkey : e.1 = key
        · simp [hkey, hnone]
        · simp [hkey, hother e hkey]
      · refine List.filter_congr fun e he => ?_
        simp [mem_keys_insert, hrest e he]
    · have hentries : (ns.insert key uri).entries = ns.entries ++ [(key, uri)] :=
        insertEntry_of_not_mem hmem
      rw [hentries, List.filter_cons_of_pos (by simpa using hmem), List.map_append,
        List.append_assoc]
      congr 1
      · refine List.map_congr_left fun e he => ?_
        have hkey : e.1 ≠ key := fun heq => hmem (List.mem_map.2 ⟨e, he, heq⟩)
        rw [hother e hkey]
      · rw [List.map_singleton, List.singleton_append, hnone, Option.getD_none]
        refine congrArg _ (List.filter_congr fun e he => ?_)
        simp [mem_keys_insert, hrest e he]

theorem mem_keys_update {k : String} :
    k ∈ (ns.update later).keys ↔ k ∈ ns.keys ∨ k ∈ later.keys := by
  rw [update, keys.eq_def later]
  generalize later.entries = l
  induction l generalizing ns with
  | nil => simp
  | cons e l ih =>
    rw [List.foldl_cons, ih, mem_keys_insert, List.map_cons, List.mem_cons]
    constructor
    · rintro ((h | h) | h) <;> simp [h]
    · rintro (h | h | h) <;> simp [h]

end Again

def size (ns : Namespaces) : Nat := ns.entries.length

/-- Do both map the same prefixes to the same URIs, in whatever order? -/
def same (ns other : Namespaces) : Bool :=
  ns.size = other.size && ns.entries.all fun e => other.find? e.1 = some e.2

/-- The mappings that every document may use without declaring them. -/
def builtin : Namespaces := .ofList [
  ("", ""),
  ("jcr", "http://www.jcp.org/jcr/1.0"),
  ("nt", "http://www.jcp.org/jcr/nt/1.0"),
  ("mix", "http://www.jcp.org/jcr/mix/1.0"),
  ("xml", "http://www.w3.org/XML/1998/namespace"),
  ("sv", "http://www.jcp.org/jcr/sv/1.0")]

end Namespaces

end Cnd
