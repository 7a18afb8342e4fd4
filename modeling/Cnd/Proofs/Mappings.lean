import Cnd.Document.Meaning
import Mathlib.Data.List.Basic

/-!
# Mappings that are made one after the other

Of several mappings of a prefix the last one counts, but the prefix keeps the place of the first
(`Namespaces.find?_ofList`, `Namespaces.keys_ofList`). So much is known of the mappings of a schema
from the declarations that build it up.
-/

namespace Cnd

namespace Namespaces

variable {ns later : Namespaces} {key uri k : String} {l : List (String × String)}

/-! ## Looking a prefix up -/

theorem find?_insert : (ns.insert key uri).find? k = if k = key then some uri else ns.find? k := by
  show (insertEntry key uri ns.entries).lookup k = if k = key then some uri else ns.entries.lookup k
  induction ns.entries with
  | nil =>
    by_cases hk : k = key
    · simp [insertEntry, hk]
    · simp [insertEntry, hk, beq_eq_false_iff_ne.2 hk]
  | cons e rest ih =>
    obtain ⟨first, u⟩ := e
    rw [insertEntry]
    by_cases hfirst : first = key
    · subst hfirst
      by_cases hk : k = first
      · simp [hk]
      · simp [hk, List.lookup_cons, beq_eq_false_iff_ne.2 hk]
    · rw [if_neg hfirst, List.lookup_cons, List.lookup_cons, ih]
      by_cases hk : k = first
      · subst hk
        simp [hfirst]
      · simp [beq_eq_false_iff_ne.2 hk]

/-- The last mapping of a prefix counts, and those from before if there is none. -/
theorem find?_foldl_insert : (l.foldl (fun ns e => ns.insert e.1 e.2) ns).find? k =
    (l.reverse.lookup k).or (ns.find? k) := by
  induction l generalizing ns with
  | nil => rfl
  | cons e rest ih =>
    obtain ⟨first, u⟩ := e
    rw [List.foldl_cons, ih, find?_insert, List.reverse_cons, List.lookup_append, Option.or_assoc]
    by_cases hk : k = first
    · simp [hk]
    · simp [hk, List.lookup_cons, beq_eq_false_iff_ne.2 hk]

theorem find?_ofList : (ofList l).find? k = l.reverse.lookup k := by
  rw [ofList, find?_foldl_insert]
  exact Option.or_none

theorem find?_update : (ns.update later).find? k = (later.find? k).or (ns.find? k) := by
  have hlater : later.entries.reverse.lookup k = later.find? k := by
    rw [← find?_ofList, ofList_entries]
  rw [update, find?_foldl_insert, hlater]

/-! ## The order of the prefixes -/

theorem entries_insert : (ns.insert key uri).entries =
    if key ∈ ns.keys then ns.entries.map fun e => if e.1 = key then (key, uri) else e
    else ns.entries ++ [(key, uri)] := by
  split
  · rename_i hmem
    exact insertEntry_of_mem ns.nodup hmem
  · rename_i hmem
    exact insertEntry_of_not_mem hmem

theorem keys_insert :
    (ns.insert key uri).keys = if key ∈ ns.keys then ns.keys else ns.keys ++ [key] := by
  rw [keys, entries_insert]
  split
  · rw [keys, List.map_map]
    refine List.map_congr_left fun e _ => ?_
    by_cases he : e.1 = key <;> simp [he]
  · rw [List.map_append]
    rfl

theorem keys_foldl_insert : (l.foldl (fun ns e => ns.insert e.1 e.2) ns).keys =
    (l.map (·.1)).foldl (fun done k => if k ∈ done then done else done ++ [k]) ns.keys := by
  induction l generalizing ns with
  | nil => rfl
  | cons e rest ih => rw [List.foldl_cons, ih, keys_insert, List.map_cons, List.foldl_cons]

/-- Every prefix stays at the place where it is mapped first. -/
theorem keys_ofList : (ofList l).keys = firsts (l.map (·.1)) := by
  rw [ofList, keys_foldl_insert]
  rfl

theorem mem_entries_insert {e : String × String} (h : e ∈ (ns.insert key uri).entries) :
    e = (key, uri) ∨ e ∈ ns.entries := by
  rw [entries_insert] at h
  split at h
  · obtain ⟨d, hd, rfl⟩ := List.mem_map.1 h
    split
    · exact .inl rfl
    · exact .inr hd
  · exact (List.mem_append.1 h).symm.imp_left List.mem_singleton.1

/-- Nothing is mapped that was not mapped so at some time. -/
theorem mem_of_mem_entries_foldl_insert {e : String × String}
    (h : e ∈ (l.foldl (fun ns e => ns.insert e.1 e.2) ns).entries) : e ∈ l ∨ e ∈ ns.entries := by
  induction l generalizing ns with
  | nil => exact .inr h
  | cons first rest ih =>
    rcases ih h with hrest | hinsert
    · exact .inl (List.mem_cons_of_mem _ hrest)
    · refine (mem_entries_insert hinsert).imp_left fun he => ?_
      rw [he]
      exact List.mem_cons_self

end Namespaces

namespace Document

variable {ds : List Declaration} {m : String × String}

/-! ## The mappings of a schema -/

/-- The prefix and the URI of a declaration, if it is a mapping. -/
def Declaration.mapping? : Declaration → Option (String × String)
  | mapping key uri => some (key, uri)
  | nodeType _ => none

/-- The mappings among the declarations, in their order. -/
def mappings (ds : List Declaration) : List (String × String) := ds.filterMap Declaration.mapping?

theorem mem_mappings : m ∈ mappings ds ↔ .mapping m.1 m.2 ∈ ds := by
  rw [mappings, List.mem_filterMap]
  constructor
  · rintro ⟨d, hd, hm⟩
    cases d with
    | mapping key uri =>
      cases hm
      exact hd
    | nodeType t => cases hm
  · exact fun hmem => ⟨_, hmem, rfl⟩

theorem namespaces_foldl (s : Schema) : (ds.foldl Declaration.apply s).namespaces =
    (mappings ds).foldl (fun ns e => ns.insert e.1 e.2) s.namespaces := by
  induction ds generalizing s with
  | nil => rfl
  | cons d rest ih =>
    rw [List.foldl_cons, ih]
    cases d <;> rfl

theorem namespaces_toSchema : (toSchema ds).namespaces = .ofList (mappings ds) :=
  namespaces_foldl {}

/-- A schema has no mapping but those that are declared. -/
theorem mapping_mem_of_toSchema (h : m ∈ (toSchema ds).namespaces.entries) :
    .mapping m.1 m.2 ∈ ds := by
  rw [namespaces_toSchema] at h
  exact mem_mappings.1
    ((Namespaces.mem_of_mem_entries_foldl_insert h).resolve_right List.not_mem_nil)

end Document

end Cnd
