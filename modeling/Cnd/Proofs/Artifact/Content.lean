import Mathlib.Data.List.Nodup
import Mathlib.Logic.Relation
import Cnd.Proofs.Artifact.Schema

/-!
# Artifacts are read by content

Four kinds of objects in an artifact have attributes as their keys. An `Edit` changes the form of
one of them, at any depth: it leaves an attribute out that has its default value, or it adds a key
that means nothing, or it puts the keys in another order. No edit changes what is decoded
(`Edit.same`), so after any number of them, and in whatever way the text is then written, the schema
comes back (`read_by_content`). The version is another matter: an artifact whose last one is missing
or is not the one known is refused.
-/

namespace Cnd.Artifact

open Decoded Json

/-- The kinds of objects whose keys are attributes. -/
inductive Level where
  | schema
  | nodeType
  | property
  | childNode

namespace Level

/-- The members of the object that stands for nothing but a name, every attribute with its
default. -/
def bare : Level → Json
  | schema => encode {}
  | nodeType => encodeNodeType { name := "" }
  | property => encodeProperty { name := "" }
  | childNode => encodeChildNode { name := "" }

def members (l : Level) : List (String × Json) :=
  match l.bare with
  | .object members => members
  | _ => []

/-- The key that may not be left out. -/
def mark : Level → String
  | schema => "v"
  | _ => "name"

/-- The keys that have a meaning. -/
def keys (l : Level) : List String := l.members.map (·.1)

/-- What stands in an object for the default of the attribute of this key. -/
def default? (l : Level) (key : String) : Option Json :=
  if key = l.mark then none else member? key l.members

/-- The objects in the list of this key. -/
def nested? : Level → String → Option Level
  | schema, "node_types" => some nodeType
  | nodeType, "properties" => some property
  | nodeType, "child_nodes" => some childNode
  | _, _ => none

/-- The values are decoded alike. -/
def Same : Level → Json → Json → Prop
  | schema, v, w => decode w = decode v
  | nodeType, v, w => decodeNodeType w = decodeNodeType v
  | property, v, w => decodeProperty w = decodeProperty v
  | childNode, v, w => decodeChildNode w = decodeChildNode v

end Level

/-- One change to the form of an object, or of an object in one of its lists. -/
inductive Edit : Level → Json → Json → Prop
  | delete {l : Level} {key : String} {value : Json} {a b : List (String × Json)}
      (hdefault : l.default? key = some value) (hkey : key ∉ (a ++ b).map (·.1)) :
      Edit l (.object (a ++ (key, value) :: b)) (.object (a ++ b))
  | add {l : Level} {key : String} {value : Json} {a b : List (String × Json)}
      (hkey : key ∉ l.keys) : Edit l (.object (a ++ b)) (.object (a ++ (key, value) :: b))
  | reorder {l : Level} {a b : List (String × Json)} (hperm : a.Perm b)
      (hnodup : (a.map (·.1)).Nodup) : Edit l (.object a) (.object b)
  | inside {l l' : Level} {key : String} {v w : Json} {before behind : List Json}
      {a b : List (String × Json)} (hnested : l.nested? key = some l') (h : Edit l' v w) :
      Edit l (.object (a ++ (key, .array (before ++ v :: behind)) :: b))
        (.object (a ++ (key, .array (before ++ w :: behind)) :: b))

/-- With one key, the decoder cannot tell the objects of these members apart. -/
inductive SameAt (l : Level) (key : String) (fields fields' : List (String × Json)) : Prop
  | equal (h : member? key fields' = member? key fields)
  | default {value : Json} (hdefault : l.default? key = some value)
      (h : member? key fields = some value) (h' : member? key fields' = none)
  | inside {l' : Level} {v w : Json} {before behind : List Json}
      (hnested : l.nested? key = some l') (hsame : l'.Same v w)
      (h : member? key fields = some (.array (before ++ v :: behind)))
      (h' : member? key fields' = some (.array (before ++ w :: behind)))

/-! ## Attributes -/

section Attributes

variable {α : Type} {l l' : Level} {key : String} {fields fields' : List (String × Json)}
variable {dec : Json → Decoded α} {value : Json} {default : α}

theorem map_same {β : Type} {f : α → β} {d d' : Decoded α} (h : d' = d) : f <$> d' = f <$> d := by
  rw [h]

theorem seq_same {β : Type} {d d' : Decoded (α → β)} {e e' : Decoded α} (hd : d' = d)
    (he : e' = e) : d' <*> e' = d <*> e := by
  rw [hd, he]

theorem required_same (h : SameAt l key fields fields') (hdefault : l.default? key = none)
    (hnested : l.nested? key = none) :
    required dec fields' key = required dec fields key := by
  cases h with
  | equal h => rw [required, required, h]
  | default hvalue => rw [hdefault] at hvalue; cases hvalue
  | inside hinside => rw [hnested] at hinside; cases hinside

theorem optional_same (h : SameAt l key fields fields') (hdefault : l.default? key = some value)
    (hvalue : dec value = ok default) (hnested : l.nested? key = none) :
    Decoded.optional dec fields' key default = Decoded.optional dec fields key default := by
  cases h with
  | equal h => rw [Decoded.optional, Decoded.optional, h]
  | default hkept h h' =>
    cases hdefault.symm.trans hkept
    rw [Decoded.optional, Decoded.optional, h, h']
    simp only [hvalue, within]
  | inside hinside => rw [hnested] at hinside; cases hinside

theorem items_same {v w : Json} (h : dec w = dec v) (before behind : List Json) (n : Nat) :
    items dec n (before ++ w :: behind) = items dec n (before ++ v :: behind) := by
  induction before generalizing n with
  | nil => rw [List.nil_append, List.nil_append, items, items, h]
  | cons u before ih => rw [List.cons_append, List.cons_append, items, items, ih]

/-- A list of objects is decoded alike if each of them is. -/
theorem list_same (h : SameAt l key fields fields')
    (hdefault : l.default? key = some (.array [])) (hnested : l.nested? key = some l')
    (hdec : ∀ v w, l'.Same v w → dec w = dec v) :
    Decoded.optional (decodeList dec) fields' key [] =
      Decoded.optional (decodeList dec) fields key [] := by
  cases h with
  | equal h => rw [Decoded.optional, Decoded.optional, h]
  | default hkept h h' =>
    cases hdefault.symm.trans hkept
    rw [Decoded.optional, Decoded.optional, h, h']
    rfl
  | inside hinside hsame h h' =>
    cases hnested.symm.trans hinside
    rw [Decoded.optional, Decoded.optional, h, h']
    simp only [decodeList, items_same (hdec _ _ hsame)]

end Attributes

/-! ## Objects -/

section Objects

variable {l : Level} {v w : Json} {fields fields' : List (String × Json)}

theorem decodeItem_same (hl : l = .property ∨ l = .childNode)
    (h : ∀ key ∈ l.keys, SameAt l key fields fields') : decodeItem fields' = decodeItem fields := by
  rcases hl with rfl | rfl
  all_goals
    refine seq_same (seq_same (seq_same (seq_same (map_same ?_) ?_) ?_) ?_) ?_
    · exact required_same (h "name" (by decide)) rfl rfl
    · exact optional_same (h "is_autocreated" (by decide)) rfl rfl rfl
    · exact optional_same (h "is_mandatory" (by decide)) rfl rfl rfl
    · exact optional_same (h "is_protected" (by decide)) rfl rfl rfl
    · exact optional_same (h "on_parent_version" (by decide)) rfl rfl rfl

theorem property_same (h : ∀ key ∈ Level.property.keys, SameAt .property key fields fields') :
    Level.property.Same (.object fields) (.object fields') := by
  refine seq_same (seq_same (seq_same (seq_same (seq_same (seq_same (seq_same (map_same ?_)
    ?_) ?_) ?_) ?_) ?_) ?_) ?_
  · exact decodeItem_same (.inl rfl) h
  · exact optional_same (h "required_type" (by decide)) rfl rfl rfl
  · exact optional_same (h "default_values" (by decide)) rfl rfl rfl
  · exact optional_same (h "value_constraints" (by decide)) rfl rfl rfl
  · exact optional_same (h "is_multiple" (by decide)) rfl rfl rfl
  · exact optional_same (h "available_query_operators" (by decide)) rfl rfl rfl
  · exact optional_same (h "is_full_text_searchable" (by decide)) rfl rfl rfl
  · exact optional_same (h "is_query_orderable" (by decide)) rfl rfl rfl

theorem childNode_same (h : ∀ key ∈ Level.childNode.keys, SameAt .childNode key fields fields') :
    Level.childNode.Same (.object fields) (.object fields') := by
  refine seq_same (seq_same (seq_same (map_same ?_) ?_) ?_) ?_
  · exact decodeItem_same (.inr rfl) h
  · exact optional_same (h "required_primary_types" (by decide)) rfl rfl rfl
  · exact optional_same (h "default_primary_type" (by decide)) rfl rfl rfl
  · exact optional_same (h "allows_same_name_siblings" (by decide)) rfl rfl rfl

theorem nodeType_same (h : ∀ key ∈ Level.nodeType.keys, SameAt .nodeType key fields fields') :
    Level.nodeType.Same (.object fields) (.object fields') := by
  refine seq_same (seq_same (seq_same (seq_same (seq_same (seq_same (seq_same (seq_same
    (map_same ?_) ?_) ?_) ?_) ?_) ?_) ?_) ?_) ?_
  · exact required_same (h "name" (by decide)) rfl rfl
  · exact optional_same (h "supertypes" (by decide)) rfl rfl rfl
  · exact optional_same (h "is_abstract" (by decide)) rfl rfl rfl
  · exact optional_same (h "is_mixin" (by decide)) rfl rfl rfl
  · exact optional_same (h "is_orderable" (by decide)) rfl rfl rfl
  · exact optional_same (h "is_queryable" (by decide)) rfl rfl rfl
  · exact optional_same (h "primary_item_name" (by decide)) rfl rfl rfl
  · exact list_same (h "properties" (by decide)) rfl rfl fun _ _ hsame => hsame
  · exact list_same (h "child_nodes" (by decide)) rfl rfl fun _ _ hsame => hsame

theorem schema_same (h : ∀ key ∈ Level.schema.keys, SameAt .schema key fields fields') :
    Level.schema.Same (.object fields) (.object fields') := by
  show decode (.object fields') = decode (.object fields)
  have hversion : member? "v" fields' = member? "v" fields := by
    cases h "v" (by decide) with
    | equal h => exact h
    | default hdefault => cases hdefault
    | inside hnested => cases hnested
  have hschema : decodeSchema fields' = decodeSchema fields := by
    refine seq_same (map_same ?_) ?_
    · exact optional_same (h "namespaces" (by decide)) rfl rfl rfl
    · exact list_same (h "node_types" (by decide)) rfl rfl fun _ _ hsame => hsame
  rw [decode, decode, hversion, hschema]

theorem object_same (h : ∀ key ∈ l.keys, SameAt l key fields fields') :
    l.Same (.object fields) (.object fields') := by
  cases l with
  | schema => exact schema_same h
  | nodeType => exact nodeType_same h
  | property => exact property_same h
  | childNode => exact childNode_same h

end Objects

/-! ## Edits -/

section Edits

variable {l l' : Level} {key k : String} {v w value : Json} {a b : List (String × Json)}

theorem sameAt_delete (hdefault : l.default? key = some value)
    (hkey : key ∉ (a ++ b).map (·.1)) (k : String) :
    SameAt l k (a ++ (key, value) :: b) (a ++ b) := by
  by_cases hk : k = key
  · subst hk
    have hnone : member? k (a ++ b) = none := member?_eq_none.2 hkey
    have ha : member? k a = none := by
      rw [member?_append, Option.or_eq_none_iff] at hnone
      exact hnone.1
    exact .default hdefault (member?_append_cons ha) hnone
  · exact .equal (member?_of_ne hk).symm

theorem sameAt_add (hkey : key ∉ l.keys) (hk : k ∈ l.keys) :
    SameAt l k (a ++ b) (a ++ (key, value) :: b) :=
  .equal (member?_of_ne fun heq => hkey (heq ▸ hk))

theorem sameAt_inside {before behind : List Json} (hnested : l.nested? key = some l')
    (hsame : l'.Same v w) (k : String) :
    SameAt l k (a ++ (key, .array (before ++ v :: behind)) :: b)
      (a ++ (key, .array (before ++ w :: behind)) :: b) := by
  by_cases hk : k = key
  · subst hk
    cases ha : member? k a with
    | none => exact .inside hnested hsame (member?_append_cons ha) (member?_append_cons ha)
    | some u =>
      refine .equal ?_
      rw [member?_append, member?_append, ha]
      rfl
  · refine .equal ?_
    rw [member?_of_ne hk, member?_of_ne hk]

/-- No edit changes what is decoded. -/
theorem Edit.same (h : Edit l v w) : l.Same v w := by
  induction h with
  | delete hdefault hkey => exact object_same fun k _ => sameAt_delete hdefault hkey k
  | add hkey => exact object_same fun k hk => sameAt_add hkey hk
  | reorder hperm hnodup => exact object_same fun k _ => .equal (member?_perm hperm hnodup)
  | inside hnested _ ih => exact object_same fun k _ => sameAt_inside hnested ih k

theorem Level.Same.refl (l : Level) (v : Json) : l.Same v v := by
  cases l <;> rfl

theorem Level.Same.trans {u : Json} (h : l.Same u v) (h' : l.Same v w) : l.Same u w := by
  cases l <;> exact Eq.trans h' h

/-- Nor do any number of them. -/
theorem same_of_edits (h : Relation.ReflTransGen (Edit l) v w) : l.Same v w := by
  induction h with
  | refl => exact .refl l v
  | tail _ hedit ih => exact ih.trans hedit.same

/-- Attributes that have their defaults may be left out together. -/
theorem edits_delete (hnodup : ((a ++ b).map (·.1)).Nodup)
    (hdefault : ∀ m ∈ b, l.default? m.1 = some m.2) :
    Relation.ReflTransGen (Edit l) (.object (a ++ b)) (.object a) := by
  induction b with
  | nil =>
    rw [List.append_nil]
  | cons m b ih =>
    rw [List.forall_mem_cons] at hdefault
    rw [List.map_append, List.map_cons, List.nodup_middle, List.nodup_cons, ← List.map_append]
      at hnodup
    exact .head (.delete hdefault.1 hnodup.1) (ih hnodup.2 hdefault.2)

/-- What is edited in a list may be edited in an object that has the list. -/
theorem edits_inside {before behind : List Json} (hnested : l.nested? key = some l')
    (h : Relation.ReflTransGen (Edit l') v w) :
    Relation.ReflTransGen (Edit l) (.object (a ++ (key, .array (before ++ v :: behind)) :: b))
      (.object (a ++ (key, .array (before ++ w :: behind)) :: b)) :=
  h.lift (fun u => Json.object (a ++ (key, .array (before ++ u :: behind)) :: b))
    fun _ _ hedit => Edit.inside hnested hedit

end Edits

/-! ## Texts -/

section Texts

variable {text : String} {ms : List (String × Json)}

/-- An artifact whose version is missing or not the one known is refused for it. -/
theorem deserialize_version (htext : TextOf (.object ms) text)
    (hversion : member? "v" ms.reverse ≠ some (.string version)) :
    deserialize text = .error (.version ((member? "v" ms.reverse).getD .null)) := by
  rw [deserialize, read_of_object htext]
  simp only [decode, member?_distinct]
  split
  · rename_i v hv
    rw [if_neg (fun heq => hversion (by rw [hv, heq])), hv]
    rfl
  · rfl

/-- **Artifacts are read by content.** Whatever text is written for an object that comes from the
object of a schema by edits, in the order of its members, with names that are given again, with
spaces and with every spelling of the strings: the schema comes back. Only the version that is given
last must be there and be the one known, whatever else there is. -/
theorem read_by_content (htext : TextOf (.object ms) text) :
    (∀ s, Relation.ReflTransGen (Edit .schema) (encode s) (.object (distinct ms)) →
      deserialize text = .ok s) ∧
    (member? "v" ms.reverse ≠ some (.string "1") →
      deserialize text = .error (.version ((member? "v" ms.reverse).getD .null))) := by
  refine ⟨fun s hedits => ?_, deserialize_version htext⟩
  have hsame : decode (.object (distinct ms)) = decode (encode s) := same_of_edits hedits
  rw [deserialize, read_of_object htext]
  exact hsame.trans (decode_encode s)

/-- A node type with nothing but its name and a key that means nothing, in a text with two
versions; and a text with none. -/
theorem read_by_content_bare :
    let text := "\x7b\x22v\x22:0,\x22node_types\x22:" ++
      "[\x7b\x22x\x22:1,\x22n\\u0061me\x22:\x22b\x22\x7d] ,\x22v\x22:\x221\x22\x7d"
    let item : List (String × Json) := [("x", .int 1), ("name", .string "b")]
    let ms : List (String × Json) :=
      [("v", .int 0), ("node_types", .array [.object item]), ("v", .string "1")]
    let s : Schema := ⟨.empty, [{ name := "b" }]⟩
    TextOf (.object ms) text ∧
      Relation.ReflTransGen (Edit .schema) (encode s) (.object (distinct ms)) ∧
      deserialize text = .ok s ∧
      deserialize "\x7b\x7d" = .error (.version .null) := by
  intro text item ms s
  have htext : TextOf (.object ms) text := by
    have hv : Spelled "v".toList ['v'] := .self (by decide)
    have hx : Spelled "x".toList ['x'] := .self (by decide)
    have hb : Spelled "b".toList ['b'] := .self (by decide)
    have hone : Spelled "1".toList ['1'] := .self (by decide)
    have htypes : Spelled "node_types".toList "node_types".toList := .self (by decide)
    have hunit : UnitText 97 ['0', '0', '6', '1'] :=
      @UnitText.digits 0 0 6 1 _ _ _ _ (by decide) (by decide) (by decide) (by decide)
    have hname : Spelled "name".toList
        ('n' :: '\\' :: 'u' :: (['0', '0', '6', '1'] ++ ['m', 'e'])) :=
      .plain (by decide) (by decide) (by decide)
        (.unit hunit (.inl rfl) (fun hhigh => absurd hhigh.1 (by decide)) (.self (by decide)))
    have hzero : Written (.value (.int 0)) ['0'] :=
      .number (@NumberText.int false ['0'] .zero (by decide))
    have hnumber : Written (.value (.int 1)) ['1'] :=
      .number (@NumberText.int false ['1'] (.digits ⟨by simp, by simp⟩ (by decide)) (by decide))
    have hitem := Written.object
      (.consMember .nil (.member hx .nil .nil hnumber) .nil
        (.lastMember .nil (.member hname .nil .nil (.string hb)) .nil))
    have hlist := Written.array (.lastItem .nil (.ofObject hitem) .nil)
    have hspace : Spaces [' '] := List.forall_mem_singleton.2 (.inl rfl)
    exact ⟨[], _, [], .nil, .object (.consMember .nil (.member hv .nil .nil hzero) .nil
      (.consMember .nil (.member htypes .nil .nil hlist) hspace
        (.lastMember .nil (.member hv .nil .nil (.string hone)) .nil))), .nil, by decide⟩
  have hedits : Relation.ReflTransGen (Edit .schema) (encode s) (.object (distinct ms)) := by
    have hnode : Relation.ReflTransGen (Edit .nodeType) (encodeNodeType { name := "b" })
        (.object item) := by
      have hdefaults : ∀ m ∈ Level.nodeType.members.tail,
          Level.nodeType.default? m.1 = some m.2 := by
        simp only [Level.members, Level.bare, encodeNodeType, List.tail_cons, List.forall_mem_cons]
        exact ⟨rfl, rfl, rfl, rfl, rfl, rfl, rfl, rfl, nofun⟩
      have hname : Relation.ReflTransGen (Edit .nodeType) (encodeNodeType { name := "b" })
          (.object [("name", .string "b")]) :=
        @edits_delete .nodeType [("name", .string "b")] _ (by decide) hdefaults
      exact hname.tail (@Edit.add _ "x" (.int 1) [] _ (by decide))
    refine .head (@Edit.delete .schema "namespaces" _ [_] [_] rfl (by decide)) ?_
    exact @edits_inside _ _ "node_types" _ _ [_] [] [] [] rfl hnode
  have hempty : TextOf (.object []) "\x7b\x7d" :=
    ⟨[], _, [], .nil, .emptyObject .nil, .nil, by decide⟩
  exact ⟨htext, hedits, (read_by_content htext).1 s hedits,
    (read_by_content hempty).2 (by simp [member?])⟩

end Texts

end Cnd.Artifact
