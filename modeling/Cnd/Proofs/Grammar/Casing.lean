import Cnd.Document.Reader
import Cnd.Proofs.Grammar.Document
import Cnd.Proofs.Grammar.Keyword
import Cnd.Proofs.Text.Ascii
import Mathlib.Data.List.Forall2

/-!
# The case of types and operators

Property types and query operators are recognised by their upper case, keywords by what they fold
to. The two agree on all but two characters (`types_and_operators_spelled`): where a type or an
operator is wanted, a dotless i passes for an i, and a Kelvin sign does not pass for a k.
-/

namespace Cnd.Document

open Rule

/-- The word folds as the label does, with an i for every dotless i and without Kelvin signs. -/
def SpelledAs (word label : String) : Prop :=
  Text.casefold (Text.undotted word) = Text.casefold label ∧ '\u212a' ∉ word.toList

instance (word label : String) : Decidable (SpelledAs word label) :=
  inferInstanceAs (Decidable (_ ∧ _))

/-! ## Labels -/

theorem isCapital_label (type : PropertyType) : Text.IsCapital type.label := by
  cases type <;> exact ⟨by decide +kernel, by decide +kernel, by decide +kernel⟩

theorem isCapital_operator {operator : String} (h : operator ∈ Cnd.queryOperators) :
    Text.IsCapital operator := by
  have hascii : ∀ o ∈ Cnd.queryOperators, Text.IsAscii o.toList := by decide +kernel
  have hupper : ∀ o ∈ Cnd.queryOperators, Text.upper o = o := by decide +kernel
  have hapart : ∀ o ∈ Cnd.queryOperators, ¬ ['s', 's'] <:+: (Text.casefold o).toList := by
    decide +kernel
  exact ⟨hascii _ h, hupper _ h, hapart _ h⟩

/-! ## Types -/

theorem propertyType?_eq_some_iff_spelledAs {word : String} {type : PropertyType} :
    propertyType? word = some type ↔ SpelledAs word type.label := by
  rw [propertyType?_eq_some_iff, eq_comm, (isCapital_label type).upper_eq_iff, SpelledAs]

theorem readTypeName_word {context : Context} {word : String} {pos : Position}
    {rest mid : List Token} {type : PropertyType} :
    readTypeName context (⟨.identifier, some word, pos⟩ :: rest) = .ok (type, mid) ↔
      propertyType? word = some type ∧ mid = rest := by
  have hexpect : expect .identifier context (⟨.identifier, some word, pos⟩ :: rest) =
      .ok (⟨.identifier, some word, pos⟩, rest) := rfl
  rw [readTypeName, bind_ok hexpect, Token.text, Option.getD_some]
  cases hword : propertyType? word with
  | none => exact iff_of_false nofun nofun
  | some type' =>
    constructor
    · rintro ⟨⟩
      exact ⟨rfl, rfl⟩
    · rintro ⟨⟨⟩, rfl⟩
      rfl

/-- An identifier in the parentheses of a property is read as the type that it names. -/
theorem readPropertyType_word {context : Context} {word : String} {pos : Position}
    {rest : List Token} {type : PropertyType} :
    readPropertyType context (⟨.identifier, some word, pos⟩ :: rest) = .ok (some type, rest) ↔
      propertyType? word = some type := by
  -- The identifier is neither a star nor a variant mark, which leaves the name of a type.
  have hread : readPropertyType context (⟨.identifier, some word, pos⟩ :: rest) =
      (some <$> readTypeName) context (⟨.identifier, some word, pos⟩ :: rest) := rfl
  rw [hread]
  constructor
  · intro h
    obtain ⟨a, ha, ⟨⟩⟩ := of_map_ok h
    exact (readTypeName_word.1 ha).1
  · intro h
    rw [← bind_pure_comp, bind_ok (readTypeName_word.2 ⟨h, rfl⟩)]
    rfl

/-! ## Operators -/

/-- The upper case of each piece is an operator exactly if each piece is spelled as that one. -/
theorem forall₂_spelledAs_iff {pieces named : List String} :
    List.Forall₂ SpelledAs pieces named ∧ named ⊆ Cnd.queryOperators ↔
      (∀ piece ∈ pieces, Text.upper piece ∈ Cnd.queryOperators) ∧
        pieces.map Text.upper = named := by
  constructor
  · rintro ⟨hspelled, hnamed⟩
    induction hspelled with
    | nil => exact ⟨nofun, rfl⟩
    | @cons piece operator pieces named hpiece _ ih =>
      rw [List.cons_subset] at hnamed
      obtain ⟨hoperators, rfl⟩ := ih hnamed.2
      have hupper : Text.upper piece = operator :=
        (isCapital_operator hnamed.1).upper_eq_iff.2 hpiece
      exact ⟨List.forall_mem_cons.2 ⟨hupper ▸ hnamed.1, hoperators⟩, by rw [List.map_cons, hupper]⟩
  · rintro ⟨hoperators, rfl⟩
    refine ⟨?_, fun operator h => ?_⟩
    · rw [List.forall₂_map_right_iff, List.forall₂_same]
      exact fun piece h => (isCapital_operator (hoperators piece h)).upper_eq_iff.1 rfl
    · obtain ⟨piece, hpiece, rfl⟩ := List.mem_map.1 h
      exact hoperators piece hpiece

/-- A string where operators are wanted is read as the operators that its pieces name. -/
theorem readOperatorList_string {context : Context} {text : String} {pos : Position}
    {rest : List Token} {operators : List String} :
    readOperatorList context (⟨.string, some text, pos⟩ :: rest) = .ok (operators, rest) ↔
      ∃ named, List.Forall₂ SpelledAs (writtenPieces text) named ∧
        named ⊆ Cnd.queryOperators ∧ firsts named = operators := by
  have hexpect : expect .string context (⟨.string, some text, pos⟩ :: rest) =
      .ok (⟨.string, some text, pos⟩, rest) := rfl
  have hread : readOperatorList context (⟨.string, some text, pos⟩ :: rest) =
      .ok (operators, rest) ↔ readQueryOperators text = .ok operators := by
    rw [readOperatorList, bind_ok hexpect, Token.text, Option.getD_some]
    cases readQueryOperators text with
    | error piece => exact iff_of_false nofun nofun
    | ok operators' =>
      constructor
      · rintro ⟨⟩
        rfl
      · rintro ⟨⟩
        rfl
  rw [hread, @readQueryOperators_eq_ok_iff text operators [], holds_operators_iff, operatorsOf,
    filter_operatorPieces]
  constructor
  · rintro ⟨hoperators, rfl⟩
    obtain ⟨hspelled, hnamed⟩ := forall₂_spelledAs_iff.2 ⟨hoperators, rfl⟩
    exact ⟨_, hspelled, hnamed, rfl⟩
  · rintro ⟨named, hspelled, hnamed, rfl⟩
    obtain ⟨hoperators, rfl⟩ := forall₂_spelledAs_iff.1 ⟨hspelled, hnamed⟩
    exact ⟨hoperators, rfl⟩

/-! ## Against keywords -/

/-- The labels of the types and the operators. -/
def labels : List String := PropertyType.all.map PropertyType.label ++ Cnd.queryOperators

theorem isCapital_of_mem_labels {label : String} (h : label ∈ labels) : Text.IsCapital label := by
  rcases List.mem_append.1 h with h | h
  · obtain ⟨type, -, rfl⟩ := List.mem_map.1 h
    exact isCapital_label type
  · exact isCapital_operator h

/-- **Types and operators are recognised by their upper case, not by what they fold to.** A type
is read from a word, and an operator from a piece of the list, that is spelled as its label is.
Such a word folds as the label does, as a keyword has to, unless it has a dotless i; and a word
that folds as the label does is spelled so unless it has a Kelvin sign. -/
theorem types_and_operators_spelled {label : String} (h : label ∈ labels) (context : Context)
    (word : String) (pos : Position) (rest : List Token) :
    (∀ type, readPropertyType context (⟨.identifier, some word, pos⟩ :: rest) =
      .ok (some type, rest) ↔ SpelledAs word type.label) ∧
    (∀ operators, readOperatorList context (⟨.string, some word, pos⟩ :: rest) =
      .ok (operators, rest) ↔
        ∃ named, List.Forall₂ SpelledAs (writtenPieces word) named ∧
          named ⊆ Cnd.queryOperators ∧ firsts named = operators) ∧
    (SpelledAs word label ∧ '\u0131' ∉ word.toList ↔
      Text.casefold word = Text.casefold label ∧ '\u212a' ∉ word.toList) := by
  refine ⟨fun type => readPropertyType_word.trans propertyType?_eq_some_iff_spelledAs,
    fun operators => readOperatorList_string, ?_⟩
  rw [(isCapital_of_mem_labels h).casefold_eq_iff, SpelledAs, and_right_comm]

/-- With a dotless i the word folds unlike the type that it is read as. -/
theorem type_spelled_dotless :
    "STRING" ∈ labels ∧ Text.casefold "str\u0131ng" ≠ Text.casefold "STRING" ∧
      readPropertyType ⟨.ok ⟨1, 1, 0⟩, []⟩ [⟨.identifier, some "str\u0131ng", ⟨1, 1, 0⟩⟩] =
        .ok (some .string, []) := by
  have hlabel : "STRING" ∈ labels := by decide
  have h := types_and_operators_spelled hlabel ⟨.ok ⟨1, 1, 0⟩, []⟩ "str\u0131ng" ⟨1, 1, 0⟩ []
  exact ⟨hlabel, by decide +kernel, (h.1 .string).2 (by decide +kernel)⟩

/-- A dotless i makes a type and an operator of words that do not fold as their labels do; with a
Kelvin sign the words that fold so are refused. -/
theorem not_recognised_by_folding :
    (Text.casefold "str\u0131ng" ≠ Text.casefold "STRING" ∧
      ∃ s, parse .empty "[a]\n- p (str\u0131ng)" = .ok s ∧
        parse .empty "[a]\n- p (STRING)" = .ok s) ∧
    (Text.casefold "l\u0131ke" ≠ Text.casefold "LIKE" ∧
      readQueryOperators "l\u0131ke" = .ok ["LIKE"]) ∧
    (Text.casefold "wea\u212areference" = Text.casefold "WEAKREFERENCE" ∧
      propertyType? "wea\u212areference" = none) ∧
    (Text.casefold "li\u212ae" = Text.casefold "LIKE" ∧
      readQueryOperators "li\u212ae" = .error "li\u212ae") := by
  refine ⟨⟨by decide +kernel, ?_⟩, by decide +kernel, by decide +kernel, by decide +kernel⟩
  refine ⟨{ nodeTypes := [
    { name := "a", properties := [{ name := "p", requiredType := .string }] }] }, ?_, ?_⟩ <;>
  · rw [parse, Reading.schema_eq_ok_iff]
    decide +kernel

end Cnd.Document
