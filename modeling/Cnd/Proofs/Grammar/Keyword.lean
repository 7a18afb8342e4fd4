import Cnd.Proofs.Grammar.Tree
import Cnd.Proofs.Outcome

/-!
# Keywords, types and operators

What the keyword tables and the tables of types and operators decide, said by the words that
the grammar lists. No two entries of a table share a word, whatever its case, so the order in
which they are tried does not matter; and no keyword of properties or child nodes alone is one
of all items, so neither does the order of the tables.
-/

namespace Cnd.Document

/-! ## Tables of keywords -/

theorem isKeyword_iff {words : List String} {t : Token} :
    isKeyword words t ↔ t.kind = .identifier ∧
      ∃ w ∈ words, ∃ d, t.data = some d ∧ Text.casefold d = Text.casefold w := by
  cases hd : t.data with
  | none => simp [isKeyword, hd]
  | some d => simp [isKeyword, hd]

theorem kind_of_isKeyword {words : List String} {t : Token} (h : isKeyword words t) :
    t.kind = .identifier :=
  (isKeyword_iff.1 h).1

/-- Do the lists share a word, whatever its case? -/
def Overlap (words others : List String) : Prop :=
  ∃ w ∈ words, ∃ v ∈ others, Text.casefold w = Text.casefold v

instance (words others : List String) : Decidable (Overlap words others) :=
  inferInstanceAs (Decidable (∃ w ∈ words, ∃ v ∈ others, Text.casefold w = Text.casefold v))

theorem overlap_of_isKeyword {words others : List String} {t : Token} (h : isKeyword words t)
    (h' : isKeyword others t) : Overlap words others := by
  obtain ⟨-, w, hw, d, hd, heq⟩ := isKeyword_iff.1 h
  obtain ⟨-, v, hv, e, he, heq'⟩ := isKeyword_iff.1 h'
  obtain rfl := Option.some.inj (hd.symm.trans he)
  exact ⟨w, hw, v, hv, heq.symm.trans heq'⟩

section Table

variable {κ : Type} {table : List (List String × κ)} {t : Token} {k : κ}

theorem lookup?_eq_some_iff (hdisjoint : table.Pairwise fun e e' => ¬ Overlap e.1 e'.1) :
    lookup? table t = some k ↔ ∃ words, (words, k) ∈ table ∧ isKeyword words t := by
  induction table with
  | nil => simp [lookup?]
  | cons e table ih =>
    obtain ⟨hhead, htail⟩ := List.pairwise_cons.1 hdisjoint
    unfold lookup? at ih ⊢
    by_cases he : isKeyword e.1 t
    · -- The first entry is hit, and no later one shares a word with it.
      simp only [List.find?_cons, he]
      constructor
      · rintro ⟨⟩
        exact ⟨e.1, List.mem_cons_self, he⟩
      · rintro ⟨words, hmem, hwords⟩
        rcases List.mem_cons.1 hmem with rfl | hmem
        · rfl
        · exact absurd (overlap_of_isKeyword he hwords) (hhead _ hmem)
    · simp only [List.find?_cons, he, ih htail]
      constructor
      · rintro ⟨words, hmem, hwords⟩
        exact ⟨words, List.mem_cons_of_mem _ hmem, hwords⟩
      · rintro ⟨words, hmem, hwords⟩
        rcases List.mem_cons.1 hmem with rfl | hmem
        · exact absurd hwords he
        · exact ⟨words, hmem, hwords⟩

/-- A symbol and a table of words, which together list every keyword by its spellings. -/
theorem lead_iff {words : κ → List String} {symbols : κ → List Token.Kind} {symbol : Token.Kind}
    {k₀ : κ} (hsymbol : symbol ≠ .identifier)
    (hdisjoint : table.Pairwise fun e e' => ¬ Overlap e.1 e'.1)
    (hwords : ∀ {ws k}, (ws, k) ∈ table ↔ ws = words k)
    (hsymbols : ∀ {kind k}, kind ∈ symbols k ↔ k = k₀ ∧ kind = symbol) :
    (if t.kind = symbol then some k₀ else lookup? table t) = some k ↔
      isKeyword (words k) t ∨ t.kind ∈ symbols k := by
  rw [hsymbols]
  by_cases ht : t.kind = symbol
  · have hword : ¬ isKeyword (words k) t := fun h => hsymbol (ht.symm.trans (kind_of_isKeyword h))
    rw [if_pos ht]
    simp [hword, ht, eq_comm]
  · rw [if_neg ht, lookup?_eq_some_iff hdisjoint]
    simp [hwords, ht]

end Table

theorem NodeTypeKeyword.ofToken?_eq_some_iff {t : Token} {k : NodeTypeKeyword} :
    ofToken? t = some k ↔ isKeyword k.words t ∨ t.kind ∈ k.symbols := by
  refine lead_iff (by decide) (by decide +kernel) ?_ ?_
  · intro ws k
    cases k <;> simp [words]
  · intro kind k
    cases k <;> simp [symbols]

theorem ItemKeyword.ofToken?_eq_some_iff {t : Token} {k : ItemKeyword} :
    ofToken? t = some k ↔ isKeyword k.words t ∨ t.kind ∈ k.symbols := by
  refine lead_iff (by decide) (by decide +kernel) ?_ ?_
  · intro ws k
    rcases k with _ | _ | _ | _ | _ | (_ | _) <;> simp [words, OnParentVersion.all]
  · intro kind k
    cases k <;> simp [symbols]

theorem PropertyKeyword.ofToken?_eq_some_iff {t : Token} {k : PropertyKeyword} :
    ofToken? t = some k ↔ isKeyword k.words t ∨ t.kind ∈ k.symbols := by
  refine lead_iff (by decide) (by decide +kernel) ?_ ?_
  · intro ws k
    cases k <;> simp [words]
  · intro kind k
    cases k <;> simp [symbols]

theorem ChildNodeKeyword.ofToken?_eq_some_iff {t : Token} {k : ChildNodeKeyword} :
    ofToken? t = some k ↔ isKeyword k.words t ∨ t.kind ∈ k.symbols := by
  refine lead_iff (by decide) (by decide +kernel) ?_ ?_
  · intro ws k
    cases k
    simp [words]
  · intro kind k
    cases k
    simp [symbols]

/-! ## Tokens that begin no phrase -/

theorem kind_of_lead {words : List String} {symbols : List Token.Kind} {t : Token}
    (h : isKeyword words t ∨ t.kind ∈ symbols) : t.kind ∈ .identifier :: symbols := by
  rcases h with h | h
  · simp [kind_of_isKeyword h]
  · exact List.mem_cons_of_mem _ h

theorem NodeTypeKeyword.kind_of_ofToken? {t : Token} {k : NodeTypeKeyword}
    (h : ofToken? t = some k) : t.kind ∈ [.identifier, .bang] := by
  have hkind := kind_of_lead (ofToken?_eq_some_iff.1 h)
  cases k <;> simp_all [symbols]

theorem ItemKeyword.kind_of_ofToken? {t : Token} {k : ItemKeyword}
    (h : ofToken? t = some k) : t.kind ∈ [.identifier, .bang] := by
  have hkind := kind_of_lead (ofToken?_eq_some_iff.1 h)
  cases k <;> simp_all [symbols]

theorem PropertyKeyword.kind_of_ofToken? {t : Token} {k : PropertyKeyword}
    (h : ofToken? t = some k) : t.kind ∈ [.identifier, .star] := by
  have hkind := kind_of_lead (ofToken?_eq_some_iff.1 h)
  cases k <;> simp_all [symbols]

theorem ChildNodeKeyword.kind_of_ofToken? {t : Token} {k : ChildNodeKeyword}
    (h : ofToken? t = some k) : t.kind ∈ [.identifier, .star] :=
  kind_of_lead (ofToken?_eq_some_iff.1 h)

/-- A token that begins another phrase begins none of an item, if they share no word and the
other symbols are stars. -/
theorem ItemKeyword.ofToken?_eq_none {words : List String} {symbols : List Token.Kind}
    {t : Token} (hwords : ∀ k : ItemKeyword, ¬ Overlap k.words words)
    (hsymbols : symbols ⊆ [.star]) (h : isKeyword words t ∨ t.kind ∈ symbols) :
    ofToken? t = none := by
  cases hk : ofToken? t with
  | none => rfl
  | some k =>
    have hitem := kind_of_ofToken? hk
    rcases h with h | h
    · rcases ofToken?_eq_some_iff.1 hk with hk' | hk'
      · exact absurd (overlap_of_isKeyword hk' h) (hwords k)
      · rw [kind_of_isKeyword h] at hk'
        cases k <;> cases hk'
        contradiction
    · have hstar := hsymbols h
      simp_all

theorem PropertyKeyword.itemKeyword_eq_none {t : Token} {k : PropertyKeyword}
    (h : isKeyword k.words t ∨ t.kind ∈ k.symbols) : ItemKeyword.ofToken? t = none := by
  refine ItemKeyword.ofToken?_eq_none ?_ (by cases k <;> simp [symbols]) h
  cases k <;> rintro (_ | _ | _ | _ | _ | (_ | _)) <;> decide +kernel

theorem ChildNodeKeyword.itemKeyword_eq_none {t : Token} {k : ChildNodeKeyword}
    (h : isKeyword k.words t ∨ t.kind ∈ k.symbols) : ItemKeyword.ofToken? t = none := by
  refine ItemKeyword.ofToken?_eq_none ?_ (by cases k; simp [symbols]) h
  cases k
  rintro (_ | _ | _ | _ | _ | (_ | _)) <;> decide +kernel

/-! ## Types and operators -/

theorem propertyType?_eq_some_iff {word : String} {type : PropertyType} :
    propertyType? word = some type ↔ type.label = Text.upper word := by
  unfold propertyType? PropertyType.ofLabel?
  constructor
  · intro h
    simpa using List.find?_some h
  · intro h
    rw [← h]
    cases type <;> rfl

/-- The pieces of a list of operators that are not empty, trimmed, and in the case they are
written in. -/
def writtenPieces (text : String) : List String :=
  ((Text.splitOn ',' text.toList).map fun p => String.ofList (Text.trim p)).filter (!·.isEmpty)

/-- Upper case keeps the empty pieces apart from the others. -/
theorem filter_operatorPieces (text : String) :
    (operatorPieces text).filter (· ≠ "") = (writtenPieces text).map Text.upper := by
  have hmap : operatorPieces text =
      ((Text.splitOn ',' text.toList).map fun p => String.ofList (Text.trim p)).map Text.upper := by
    rw [operatorPieces, List.map_map]
    rfl
  rw [hmap, writtenPieces, List.filter_map]
  congr 2
  funext piece
  rw [Bool.eq_iff_iff]
  simp [Text.upper_eq_empty_iff]

theorem readQueryOperators_eq (text : String) : readQueryOperators text = (do
    let operators ← (writtenPieces text).mapM fun piece =>
      if Text.upper piece ∈ Cnd.queryOperators then .ok (Text.upper piece) else .error piece
    return firsts operators) :=
  rfl

theorem holds_operators_iff {text : String} {known : List String} :
    (Condition.operators text).Holds known ↔
      ∀ piece ∈ writtenPieces text, Text.upper piece ∈ Cnd.queryOperators := by
  have hmem : (Condition.operators text).Holds known ↔
      ∀ piece ∈ (operatorPieces text).filter (· ≠ ""), piece ∈ Cnd.queryOperators := by
    simp [Condition.Holds, Decidable.or_iff_not_imp_left]
  rw [hmem, filter_operatorPieces, List.forall_mem_map]

/-- A list of operators is read exactly if each of its pieces names one or is empty. -/
theorem readQueryOperators_eq_ok_iff {text : String} {operators known : List String} :
    readQueryOperators text = .ok operators ↔
      (Condition.operators text).Holds known ∧ operatorsOf text = operators := by
  rw [holds_operators_iff, operatorsOf, filter_operatorPieces, readQueryOperators_eq]
  simp only [bind, Except.bind]
  split
  · rename_i e hmap
    have hnone : ¬ ∀ piece ∈ writtenPieces text, Text.upper piece ∈ Cnd.queryOperators :=
      fun h => by cases hmap.symm.trans (Outcome.mapM_eq_ok_iff.2 ⟨h, rfl⟩)
    simp only [reduceCtorEq, hnone, false_and]
  · rename_i read hmap
    obtain ⟨hall, rfl⟩ := Outcome.mapM_eq_ok_iff.1 hmap
    rw [and_iff_right hall]
    simp only [pure, Except.pure, Except.ok.injEq]

end Cnd.Document
