import Cnd.Proofs.Grammar.Parts
import Cnd.Proofs.Lookahead.Combinators

/-!
# How far the rules of the grammar look

One fact for each rule in the order of the grammar. Most rules need at their end the token in front
of which they stop. Only behind a property the two places behind a `<` may be needed as well, if it
is left for a mapping (`Decided`); the rules for items and declarations hand that on from one to the
next.
-/

namespace Cnd.Document

open Rule

/-- A `<` in front begins a mapping, as the token two places behind it shows. -/
def OpensMapping (ts : List Token) : Prop :=
  (∃ t ∈ ts.head?, t.kind = .leftAngle) ∧ ∃ u ∈ ts[2]?, u.kind = .equals

/-- The front token is among the first `n`, and if it begins a mapping, the two behind it are as
well. -/
def Decided (s : Scan) (n k : Nat) : Prop :=
  Within n 0 k ∧ (OpensMapping (s.tokens.drop k) → Within n 2 k)

section

variable {a b : Scan} {n : Nat}

theorem Decided.of_within {k : Nat} (h : Within n 2 k) : Decided a n k := ⟨h.front, fun _ => h⟩

theorem Decided.of_ne {k : Nat} {t : Token} (h : Within n 0 k) (ht : a.look k = .ok t)
    (hkind : t.kind ≠ .leftAngle) : Decided a n k := by
  refine ⟨h, fun hopens => ?_⟩
  obtain ⟨⟨u, hu, hangle⟩, -⟩ := hopens
  rw [List.head?_drop] at hu
  rw [Scan.look, hu] at ht
  exact absurd (Except.ok.inj ht ▸ hangle) hkind

/-- A symbol other than `<` decides by itself. -/
theorem decided_of_symbol {kind : Token.Kind} (hkind : kind ≠ .leftAngle) {k : Nat} {t : Token}
    (ht : a.look k = .ok t) (hsymbol : t.kind = kind) (h : Within n 0 (k + 1)) : Decided a n k :=
  .of_ne h.back ht (hsymbol ▸ hkind)

theorem Local.decided {β : Type} {start : Nat → Prop} {rule : Rule β}
    (h : Local a b n start (Within n 0) rule) : Local a b n start (Decided a n) rule :=
  h.mono (fun _ => id) fun _ => And.left

variable (hab : a.Shared b n)

include hab

/-! ## Names and values -/

theorem local_name : Local a b n (Within n 1) (Within n 0) readName := by
  refine .checked (@Reads.text fun _ => True) (.text hab) fun t known => ?_
  cases hprefix : prefixOf? t.text with
  | none => exact .inl ⟨t.text, fun _ _ => rfl⟩
  | some key =>
    have hread (ending : Except ScanError Position) (rest : List Token) :
        (MonadReader.read : Rule Context) ⟨ending, known⟩ rest = .ok (⟨ending, known⟩, rest) := rfl
    by_cases hkey : key ∈ known
    · refine .inl ⟨t.text, fun ending rest => (bind_ok (hread ending rest)).trans ?_⟩
      rw [if_pos hkey]
      rfl
    · refine .inr ⟨.unknownPrefix key, fun ending rest => (bind_ok (hread ending rest)).trans ?_⟩
      rw [if_neg hkey]
      rfl

theorem local_itemName : Local a b n (Within n 1) (Within n 0) readItemName :=
  (local_name hab).orSymbol hab .star residualName

theorem local_nameOrVariant : Local a b n (Within n 1) (Within n 0) (orVariant readName) :=
  (local_name hab).orVariant hab

theorem local_namesOrVariant : Local a b n (Within n 1) (Within n 0) (orVariant readNames) :=
  (((local_name hab).commaSeparated hab reads_name).map firsts).orVariant hab

/-- A minus that no word is glued to is blamed itself, and the token behind it is needed for that. -/
theorem local_value : Local a b n (Within n 1) (Within n 0) readValue := by
  intro known k hk
  have hword := ((Local.text hab).map Token.text) known k hk
  rw [readValue, otherwise, readNegative, bind_assoc]
  refine .peek hab Within.front fun sign hsign => ?_
  by_cases hminus : sign.kind = .minus
  · rw [if_pos hminus, bind_assoc]
    refine .peek hab id fun word hnext => ?_
    by_cases hglued : word.kind = .identifier ∧ word.position.offset = sign.position.offset + 1
    · rw [if_pos hglued]
      have heof : word.kind ≠ .eof := by simp [hglued.1]
      have hj : k + 2 ≤ a.tokens.length := Scan.lt_of_look hnext heof
      have h : LocalOutcome a b n (Within n 1 k) (Within n 0)
          (.ok ("-" ++ word.text, a.tokens.drop (k + 2)))
          (.ok ("-" ++ word.text, b.tokens.drop (k + 2))) :=
        .ok hj fun hn => ⟨within_succ.1 hn.back, rfl⟩
      rwa [← List.drop_drop, ← List.drop_drop] at h
    · rw [if_neg hglued]
      exact hword
  · rw [if_neg hminus]
    exact hword

theorem local_valuesOrVariant : Local a b n (Within n 1) (Within n 0) (orVariant readValues) :=
  ((local_value hab).commaSeparated hab reads_value).orVariant hab

/-! ## Options and attributes -/

theorem local_nodeTypeOption : Local a b n (Within n 0) (Within n 0) readNodeTypeOption := by
  refine .phrase hab fun k => ?_
  cases k with
  | orderable => exact (Local.variant hab).map NodeTypeOption.orderable
  | mixin => exact (Local.variant hab).map NodeTypeOption.mixin
  | abstract => exact (Local.variant hab).map NodeTypeOption.abstract
  | noQuery => exact .pure _ fun _ => id
  | query => exact .pure _ fun _ => id
  | primaryItem =>
    exact (local_nameOrVariant hab).front.map NodeTypeOption.primaryItem

theorem local_itemAttribute : Local a b n (Within n 0) (Within n 0) readItemAttribute := by
  refine .phrase hab fun k => ?_
  cases k with
  | autocreated => exact (Local.variant hab).map ItemAttribute.autocreated
  | mandatory => exact (Local.variant hab).map ItemAttribute.mandatory
  | protectedItem => exact (Local.variant hab).map ItemAttribute.protectedItem
  | primary => exact .pure _ fun _ => id
  | anyVersion =>
    exact (Local.expect hab .question).front.map fun _ => ItemAttribute.onParentVersion none
  | onParentVersion => exact .pure _ fun _ => id

theorem local_operatorList : Local a b n (Within n 1) (Within n 0) readOperatorList := by
  refine .checked (@Reads.expect (fun _ => True) .string (by decide)) (.expect hab .string)
    fun t known => ?_
  cases hread : readQueryOperators t.text with
  | ok operators => exact .inl ⟨operators, fun _ _ => rfl⟩
  | error piece => exact .inr ⟨.unknownQueryOperator piece, fun _ _ => rfl⟩

theorem local_propertyAttribute : Local a b n (Within n 0) (Within n 0) readPropertyAttribute := by
  refine ((local_itemAttribute hab).map (Option.map PropertyAttribute.item)).orElse
    (.phrase hab fun k => ?_) fun _ => id
  cases k with
  | multiple => exact (Local.variant hab).map PropertyAttribute.multiple
  | queryOperators =>
    exact ((local_operatorList hab).orVariant hab).front.map PropertyAttribute.queryOperators
  | noFullText => exact (Local.variant hab).map PropertyAttribute.noFullText
  | noQueryOrder => exact (Local.variant hab).map PropertyAttribute.noQueryOrder

theorem local_childNodeAttribute : Local a b n (Within n 0) (Within n 0) readChildNodeAttribute := by
  refine ((local_itemAttribute hab).map (Option.map ChildNodeAttribute.item)).orElse
    (.phrase hab fun k => ?_) fun _ => id
  cases k with
  | sameNameSiblings => exact (Local.variant hab).map ChildNodeAttribute.sameNameSiblings

/-! ## Items -/

theorem local_propertyType : Local a b n (Within n 1) (Within n 0) readPropertyType := by
  have hname : Local a b n (Within n 1) (Within n 0) readTypeName := by
    refine .checked (@Reads.expect (fun _ => True) .identifier (by decide)) (.expect hab .identifier)
      fun t known => ?_
    cases hnamed : propertyType? t.text with
    | some type => exact .inl ⟨type, fun _ _ => rfl⟩
    | none => exact .inr ⟨.unknownPropertyType t.text, fun _ _ => rfl⟩
  exact (hname.orVariant hab).orSymbol hab .star (some PropertyType.undefined)

/-- Where a `<` is left for a mapping, the two tokens behind it have been looked at. Where it is
taken, they are among those that the list of values needs. -/
theorem local_constraints : Local a b n (Decided a n) (Decided a n) readConstraints := by
  intro known k hk
  refine .peek hab And.left fun t ht => ?_
  by_cases hangle : t.kind = .leftAngle
  · rw [if_pos hangle, atMapping, bind_assoc]
    refine LocalOutcome.congr (?_ : LocalOutcome a b n (Within n 2 k) _ _ _)
      fun h => ⟨.of_within h, rfl⟩
    refine .peek hab id fun u hu => ?_
    by_cases hequals : u.kind = .equals
    · have hopens : OpensMapping (a.tokens.drop k) := by
        refine ⟨⟨t, ?_, hangle⟩, u, ?_, hequals⟩
        · rw [List.head?_drop]
          exact Scan.getElem?_of_look ht (by simp [hangle])
        · rw [List.getElem?_drop]
          exact Scan.getElem?_of_look hu (by simp [hequals])
      simp only [hequals, decide_true, pure_bind, if_true]
      exact .ok hk fun h => ⟨h.2 hopens, rfl⟩
    · simp only [hequals, decide_false, pure_bind, Bool.false_eq_true, if_false]
      have hk' : k + 1 ≤ a.tokens.length := Scan.lt_of_look ht (by simp [hangle])
      rw [behind_of_look (k := k) ht hangle (by decide)]
      refine ((local_valuesOrVariant hab).decided.map some known (k + 1) hk').congr fun h => ?_
      have hwithin := within_succ.1 h
      exact ⟨hwithin, behind_of_look (hab k hwithin.front t ht) hangle (by decide)⟩
  · rw [if_neg hangle]
    exact .ok hk fun h => ⟨h, rfl⟩

theorem local_property : Local a b n (Within n 1) (Decided a n) readProperty := by
  refine (local_itemName hab).bind fun name => ?_
  refine (((local_propertyType hab).upTo hab .rightParen).behind_within hab).bind fun type => ?_
  refine ((local_valuesOrVariant hab).behind_within hab).bind fun defaults => ?_
  refine ((local_propertyAttribute hab).many offers_propertyAttribute).bind fun attributes => ?_
  rw [bind_pure_comp]
  exact ((local_constraints hab).mono (fun _ => And.left) fun _ => id).map _

theorem local_childNode : Local a b n (Within n 1) (Within n 0) readChildNode := by
  refine (local_itemName hab).bind fun name => ?_
  refine (((local_namesOrVariant hab).upTo hab .rightParen).behind_within hab).bind fun types => ?_
  refine ((local_nameOrVariant hab).behind_within hab).bind fun default => ?_
  rw [bind_pure_comp]
  exact ((local_childNodeAttribute hab).many offers_childNodeAttribute).map _

/-- An item begins with a symbol other than `<`. -/
theorem local_item : Local a b n (Decided a n) (Decided a n) readItem := by
  have hproperty : Local a b n (Decided a n) (Decided a n) (behind .minus readProperty) :=
    (local_property hab).front.behind hab (fun _ => And.left)
      (decided_of_symbol (by decide)) fun _ => id
  have hchild : Local a b n (Decided a n) (Decided a n) (behind .plus readChildNode) :=
    (local_childNode hab).front.decided.behind hab (fun _ => And.left)
      (decided_of_symbol (by decide)) fun _ => id
  exact (hproperty.map _).orElse (hchild.map _) fun _ => id

/-! ## Declarations -/

/-- The `<` of a mapping decides with the two tokens behind it, one of which is blamed or read. -/
theorem local_mapping : Local a b n (Decided a n) (Within n 0) readMapping := by
  have hangle : Local a b n (Decided a n) (Within n 1) (expect .leftAngle) :=
    .required rfl hab (fun _ => And.left) (fun _ _ h => .of_within (within_succ.1 h))
      fun {k t} ht hnone h => .of_ne h.front ht fun hkind => by
        have hsome := hnone (by rw [hkind]; decide)
        rw [if_pos hkind] at hsome
        cases hsome
  refine hangle.bind fun _ => (Local.text hab).bind fun key => ?_
  refine (Local.expect hab .equals).front.bind fun _ => (Local.text hab).front.bind fun uri => ?_
  rw [bind_pure_comp]
  exact (Local.expect hab .rightAngle).front.map _

theorem local_nodeType : Local a b n (Within n 1) (Decided a n) readNodeType := by
  refine (Local.expect hab .leftBracket).bind fun _ => (local_name hab).front.bind fun name => ?_
  refine (Local.expect hab .rightBracket).front.bind fun _ => ?_
  refine ((local_namesOrVariant hab).behind_within hab).bind fun supertypes => ?_
  refine ((local_nodeTypeOption hab).many offers_nodeTypeOption).decided.bind fun options => ?_
  rw [bind_pure_comp]
  exact ((local_item hab).many offers_item).map _

theorem local_declaration : Local a b n (Decided a n) (Decided a n) readDeclaration := by
  intro known k hk
  refine .peek hab And.left fun t ht => ?_
  by_cases heof : t.kind = .eof
  · rw [if_pos heof]
    exact .ok hk fun h => ⟨h, rfl⟩
  rw [if_neg heof]
  by_cases hangle : t.kind = .leftAngle
  · rw [if_pos hangle]
    exact ((local_mapping hab).decided.map some) known k hk
  · rw [if_neg hangle]
    exact (((local_nodeType hab).map (some ∘ Declaration.nodeType)) known k hk).congr
      fun h => ⟨.of_ne h.front ht hangle, rfl⟩

end

end Cnd.Document
