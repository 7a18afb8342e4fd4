import Cnd.Document.Meaning

/-!
# The grammar of documents as derivation trees

One type of trees for each nonterminal of the grammar, put together from terminals by
sequences (`×`), alternatives (`⊕`), options and repetitions, so that a type reads like the
right-hand side of its production. The tokens that a tree derives are those of its terminals
in order (`Phrase.tokens`).

A derivation alone does not make a document. `Phrase.conditions` collects what the names and
the operator lists of a tree have to satisfy on top, at the place where they stand.
-/

namespace Cnd.Document

/-! ## Conditions -/

/-- What a part of a document has to satisfy besides the grammar. -/
inductive Condition where
  | name (text : String)
  | operators (text : String)
deriving DecidableEq, Repr

/-- The comma-separated pieces of a list of operators, trimmed and in upper case. -/
def operatorPieces (text : String) : List String :=
  (Text.splitOn ',' text.toList).map fun piece => Text.upper (String.ofList (Text.trim piece))

/-- The operators that a list names: its pieces that are not empty, each one once. -/
def operatorsOf (text : String) : List String := firsts ((operatorPieces text).filter (· ≠ ""))

/-- Is the condition met where the prefixes `known` may be used? -/
def Condition.Holds (known : List String) : Condition → Prop
  | name text => ∀ key, prefixOf? text = some key → key ∈ known
  | operators text => ∀ piece ∈ operatorPieces text, piece = "" ∨ piece ∈ Cnd.queryOperators

theorem Condition.Holds.mono {c : Condition} {known known' : List String} (h : c.Holds known)
    (hsub : known ⊆ known') : c.Holds known' := by
  cases c with
  | name text => exact fun key hkey => hsub (h key hkey)
  | operators text => exact h

/-- The trees of a part of the grammar. -/
class Phrase (α : Type) where
  /-- The tokens that a tree derives. -/
  tokens : α → List Token
  /-- The conditions on its names and operator lists. -/
  conditions : α → List Condition

export Phrase (tokens conditions)

/-- Are the conditions of a tree met where the prefixes `known` may be used? -/
def Met {α : Type} [Phrase α] (known : List String) (x : α) : Prop :=
  ∀ c ∈ conditions x, c.Holds known

/-! ## Building blocks -/

instance {p : Token → Prop} : Phrase {t : Token // p t} where
  tokens t := [t.1]
  conditions _ := []

instance : Phrase Unit where
  tokens _ := []
  conditions _ := []

instance {α β : Type} [Phrase α] [Phrase β] : Phrase (α × β) where
  tokens x := tokens x.1 ++ tokens x.2
  conditions x := conditions x.1 ++ conditions x.2

instance {α β : Type} [Phrase α] [Phrase β] : Phrase (α ⊕ β) where
  tokens
    | .inl a => tokens a
    | .inr b => tokens b
  conditions
    | .inl a => conditions a
    | .inr b => conditions b

instance {α : Type} [Phrase α] : Phrase (Option α) where
  tokens
    | some a => tokens a
    | none => []
  conditions
    | some a => conditions a
    | none => []

instance {α : Type} [Phrase α] : Phrase (List α) where
  tokens l := l.flatMap tokens
  conditions l := l.flatMap conditions

instance {κ : Type} {α : κ → Type} [∀ k, Phrase (α k)] : Phrase (Σ k, α k) where
  tokens x := tokens x.2
  conditions x := conditions x.2

section Phrase

variable {α β : Type} [Phrase α] [Phrase β] {known : List String}

@[simp] theorem tokens_subtype {q : Token → Prop} (t : {t : Token // q t}) :
    tokens t = [t.1] := rfl

@[simp] theorem tokens_prod (x : α × β) : tokens x = tokens x.1 ++ tokens x.2 := rfl

@[simp] theorem tokens_inl (a : α) : tokens (.inl a : α ⊕ β) = tokens a := rfl

@[simp] theorem tokens_inr (b : β) : tokens (.inr b : α ⊕ β) = tokens b := rfl

@[simp] theorem tokens_none : tokens (none : Option α) = [] := rfl

@[simp] theorem tokens_some (a : α) : tokens (some a) = tokens a := rfl

@[simp] theorem tokens_nil : tokens ([] : List α) = [] := rfl

@[simp] theorem tokens_cons (a : α) (l : List α) : tokens (a :: l) = tokens a ++ tokens l := rfl

theorem Met.mono {known' : List String} {x : α} (h : Met known x) (hsub : known ⊆ known') :
    Met known' x :=
  fun c hc => (h c hc).mono hsub

@[simp] theorem met_subtype {q : Token → Prop} (t : {t : Token // q t}) : Met known t :=
  List.forall_mem_nil _

@[simp] theorem met_unit : Met known () :=
  List.forall_mem_nil _

@[simp] theorem met_prod (x : α × β) : Met known x ↔ Met known x.1 ∧ Met known x.2 :=
  List.forall_mem_append

@[simp] theorem met_inl (a : α) : Met known (.inl a : α ⊕ β) ↔ Met known a := Iff.rfl

@[simp] theorem met_inr (b : β) : Met known (.inr b : α ⊕ β) ↔ Met known b := Iff.rfl

@[simp] theorem met_none : Met known (none : Option α) :=
  List.forall_mem_nil _

@[simp] theorem met_some (a : α) : Met known (some a) ↔ Met known a := Iff.rfl

@[simp] theorem met_nil : Met known ([] : List α) :=
  List.forall_mem_nil _

@[simp] theorem met_cons (a : α) (l : List α) :
    Met known (a :: l) ↔ Met known a ∧ Met known l :=
  List.forall_mem_append

theorem met_list {l : List α} : Met known l ↔ ∀ x ∈ l, Met known x := by
  induction l with
  | nil => simp
  | cons a l ih => rw [met_cons, ih, List.forall_mem_cons]

end Phrase

namespace Tree

/-! ## Terminals -/

abbrev Symbol (kind : Token.Kind) := {t : Token // t.kind = kind}

/-- A token that begins a phrase: a keyword, which is an identifier that reads as one of the
words, or one of the symbols. -/
abbrev Lead (words : List String) (symbols : List Token.Kind) :=
  {t : Token // isKeyword words t ∨ t.kind ∈ symbols}

abbrev Word := {t : Token // t.kind = .string ∨ t.kind = .identifier}

abbrev Mark := Option (Symbol .question)

/-- The variant mark in place of something. -/
abbrev OrVariant (α : Type) := Symbol .question ⊕ α

/-- One or more, with commas between them. -/
abbrev CommaList (α : Type) := α × List (Symbol .comma × α)

/-! ## Names and values -/

/-- A word where a name has to stand. -/
structure Name where
  word : Word

instance : Phrase Name where
  tokens n := tokens n.word
  conditions n := [.name n.word.1.text]

/-- The name of an item, which may be residual. -/
abbrev ItemName := Symbol .star ⊕ Name

/-- A minus with an identifier directly behind it. -/
structure Negative where
  sign : Symbol .minus
  word : Symbol .identifier
  glued : word.1.position.offset = sign.1.position.offset + 1

instance : Phrase Negative where
  tokens n := tokens n.sign ++ tokens n.word
  conditions _ := []

abbrev Value := Negative ⊕ Word

/-- An identifier whose upper-case form is the name of a property type. -/
structure TypeName where
  word : Symbol .identifier
  type : PropertyType
  named : type.label = Text.upper word.1.text

instance : Phrase TypeName where
  tokens t := tokens t.word
  conditions _ := []

/-- What stands in the parentheses of a property. -/
abbrev RequiredType := Symbol .star ⊕ OrVariant TypeName

/-- The string with the operators of a property. -/
structure OperatorList where
  word : Symbol .string

instance : Phrase OperatorList where
  tokens o := tokens o.word
  conditions o := [.operators o.word.1.text]

end Tree

/-! ## Options and attributes

A phrase is a keyword, in one of its spellings, and what belongs behind it. -/

namespace NodeTypeKeyword

/-- The words that begin the phrase. -/
def words : NodeTypeKeyword → List String
  | orderable => ["orderable", "ord", "o"]
  | mixin => ["mixin", "mix", "m"]
  | abstract => ["abstract", "abs", "a"]
  | noQuery => ["noquery", "nq"]
  | query => ["query", "q"]
  | primaryItem => ["primaryitem"]

/-- The symbols that begin the phrase. -/
def symbols : NodeTypeKeyword → List Token.Kind
  | primaryItem => [.bang]
  | _ => []

/-- What belongs behind the keyword. -/
def Argument : NodeTypeKeyword → Type
  | orderable | mixin | abstract => Tree.Mark
  | noQuery | query => Unit
  | primaryItem => Tree.OrVariant Tree.Name

instance : (k : NodeTypeKeyword) → Phrase k.Argument
  | orderable | mixin | abstract => inferInstanceAs (Phrase Tree.Mark)
  | noQuery | query => inferInstanceAs (Phrase Unit)
  | primaryItem => inferInstanceAs (Phrase (Tree.OrVariant Tree.Name))

end NodeTypeKeyword

namespace ItemKeyword

def words : ItemKeyword → List String
  | autocreated => ["autocreated", "aut", "a"]
  | mandatory => ["mandatory", "man", "m"]
  | protectedItem => ["protected", "pro", "p"]
  | primary => ["primary", "pri"]
  | anyVersion => ["OPV"]
  | onParentVersion v => [v.label]

def symbols : ItemKeyword → List Token.Kind
  | primary => [.bang]
  | _ => []

def Argument : ItemKeyword → Type
  | autocreated | mandatory | protectedItem => Tree.Mark
  | anyVersion => Tree.Symbol .question
  | primary | onParentVersion _ => Unit

instance : (k : ItemKeyword) → Phrase k.Argument
  | autocreated | mandatory | protectedItem => inferInstanceAs (Phrase Tree.Mark)
  | anyVersion => inferInstanceAs (Phrase (Tree.Symbol .question))
  | primary | onParentVersion _ => inferInstanceAs (Phrase Unit)

end ItemKeyword

namespace PropertyKeyword

def words : PropertyKeyword → List String
  | multiple => ["multiple", "mul"]
  | queryOperators => ["queryops", "qop"]
  | noFullText => ["nofulltext", "nof"]
  | noQueryOrder => ["noqueryorder", "nqord"]

def symbols : PropertyKeyword → List Token.Kind
  | multiple => [.star]
  | _ => []

def Argument : PropertyKeyword → Type
  | multiple | noFullText | noQueryOrder => Tree.Mark
  | queryOperators => Tree.OrVariant Tree.OperatorList

instance : (k : PropertyKeyword) → Phrase k.Argument
  | multiple | noFullText | noQueryOrder => inferInstanceAs (Phrase Tree.Mark)
  | queryOperators => inferInstanceAs (Phrase (Tree.OrVariant Tree.OperatorList))

end PropertyKeyword

namespace ChildNodeKeyword

def words : ChildNodeKeyword → List String
  | sameNameSiblings => ["sns", "multiple"]

def symbols : ChildNodeKeyword → List Token.Kind
  | sameNameSiblings => [.star]

def Argument : ChildNodeKeyword → Type
  | sameNameSiblings => Tree.Mark

instance : (k : ChildNodeKeyword) → Phrase k.Argument
  | sameNameSiblings => inferInstanceAs (Phrase Tree.Mark)

end ChildNodeKeyword

namespace Tree

abbrev NodeTypeOption := Σ k : NodeTypeKeyword, Lead k.words k.symbols × k.Argument

/-- An attribute that all items can have. -/
abbrev ItemAttribute := Σ k : ItemKeyword, Lead k.words k.symbols × k.Argument

abbrev PropertyAttribute :=
  ItemAttribute ⊕ Σ k : PropertyKeyword, Lead k.words k.symbols × k.Argument

abbrev ChildNodeAttribute :=
  ItemAttribute ⊕ Σ k : ChildNodeKeyword, Lead k.words k.symbols × k.Argument

/-! ## Declarations -/

/-- A property from behind its minus. -/
abbrev Property :=
  ItemName × Option (Symbol .leftParen × RequiredType × Symbol .rightParen) ×
    Option (Symbol .equals × OrVariant (CommaList Value)) × List PropertyAttribute ×
    Option (Symbol .leftAngle × OrVariant (CommaList Value))

/-- A child node from behind its plus. -/
abbrev ChildNode :=
  ItemName × Option (Symbol .leftParen × OrVariant (CommaList Name) × Symbol .rightParen) ×
    Option (Symbol .equals × OrVariant Name) × List ChildNodeAttribute

abbrev Item := (Symbol .minus × Property) ⊕ (Symbol .plus × ChildNode)

abbrev NodeType :=
  Symbol .leftBracket × Name × Symbol .rightBracket ×
    Option (Symbol .rightAngle × OrVariant (CommaList Name)) × List NodeTypeOption × List Item

abbrev Mapping := Symbol .leftAngle × Word × Symbol .equals × Word × Symbol .rightAngle

-- The instance is a large term; it is looked up by the type as a whole.
instance : Phrase NodeType := inferInstance

abbrev Declaration := Mapping ⊕ NodeType

/-! ## What a tree denotes -/

def word (w : Word) : String := w.1.text

def name (n : Name) : String := word n.word

def itemName : ItemName → String
  | .inl _ => residualName
  | .inr n => name n

def members {α : Type} (l : CommaList α) : List α := l.1 :: l.2.map (·.2)

/-- The names of a list; one that is repeated counts once. -/
def names (l : CommaList Name) : List String := firsts ((members l).map name)

def value : Value → String
  | .inl n => "-" ++ n.word.1.text
  | .inr w => word w

def values (l : CommaList Value) : List String := (members l).map value

/-- The value of what stands in place of the variant mark. -/
def orVariant {α β : Type} (f : α → β) : OrVariant α → Option β
  | .inl _ => none
  | .inr a => some (f a)

def requiredType : RequiredType → Option PropertyType
  | .inl _ => some .undefined
  | .inr t => orVariant (·.type) t

def operatorList (o : OperatorList) : List String := operatorsOf o.word.1.text

def nodeTypeOption : NodeTypeOption → Document.NodeTypeOption
  | ⟨.orderable, _, (mark : Mark)⟩ => .orderable mark.isSome
  | ⟨.mixin, _, (mark : Mark)⟩ => .mixin mark.isSome
  | ⟨.abstract, _, (mark : Mark)⟩ => .abstract mark.isSome
  | ⟨.noQuery, _⟩ => .queryable false
  | ⟨.query, _⟩ => .queryable true
  | ⟨.primaryItem, _, (n : OrVariant Name)⟩ => .primaryItem (orVariant name n)

def itemAttribute : ItemAttribute → Document.ItemAttribute
  | ⟨.autocreated, _, (mark : Mark)⟩ => .autocreated mark.isSome
  | ⟨.mandatory, _, (mark : Mark)⟩ => .mandatory mark.isSome
  | ⟨.protectedItem, _, (mark : Mark)⟩ => .protectedItem mark.isSome
  | ⟨.primary, _⟩ => .primary
  | ⟨.anyVersion, _⟩ => .onParentVersion none
  | ⟨.onParentVersion v, _⟩ => .onParentVersion (some v)

def propertyAttribute : PropertyAttribute → Document.PropertyAttribute
  | .inl a => .item (itemAttribute a)
  | .inr ⟨.multiple, _, (mark : Mark)⟩ => .multiple mark.isSome
  | .inr ⟨.queryOperators, _, (o : OrVariant OperatorList)⟩ =>
    .queryOperators (orVariant operatorList o)
  | .inr ⟨.noFullText, _, (mark : Mark)⟩ => .noFullText mark.isSome
  | .inr ⟨.noQueryOrder, _, (mark : Mark)⟩ => .noQueryOrder mark.isSome

def childNodeAttribute : ChildNodeAttribute → Document.ChildNodeAttribute
  | .inl a => .item (itemAttribute a)
  | .inr ⟨.sameNameSiblings, _, (mark : Mark)⟩ => .sameNameSiblings mark.isSome

def property : Property → PropertyDeclaration
  | (n, type, defaults, attributes, constraints) => {
    name := itemName n
    requiredType := type.bind fun (_, t, _) => requiredType t
    defaultValues := (defaults.bind fun (_, l) => orVariant values l).getD []
    attributes := attributes.map propertyAttribute
    valueConstraints := (constraints.bind fun (_, l) => orVariant values l).getD [] }

def childNode : ChildNode → ChildNodeDeclaration
  | (n, types, default, attributes) => {
    name := itemName n
    requiredPrimaryTypes := (types.bind fun (_, l, _) => orVariant names l).getD []
    defaultPrimaryType := default.bind fun (_, t) => orVariant name t
    attributes := attributes.map childNodeAttribute }

def item : Item → ItemDeclaration
  | .inl (_, p) => .property (property p)
  | .inr (_, c) => .childNode (childNode c)

def nodeType : NodeType → NodeTypeDeclaration
  | (_, n, _, supertypes, options, items) => {
    name := name n
    supertypes := (supertypes.bind fun (_, l) => orVariant names l).getD []
    options := options.map nodeTypeOption
    items := items.map item }

def declaration : Declaration → Document.Declaration
  | .inl (_, key, _, uri, _) => .mapping (word key) (word uri)
  | .inr t => .nodeType (nodeType t)

/-! ## Documents -/

/-- The schema that the declarations of a document build up. -/
def schema (ds : List Declaration) : Schema := toSchema (ds.map declaration)

/-- Are the conditions of every declaration met where it stands? A mapping makes its prefix
known to the declarations behind it. -/
def Scoped : List String → List Declaration → Prop
  | _, [] => True
  | known, d :: ds => Met known d ∧ Scoped (knownBehind known (declaration d)) ds

end Tree

end Cnd.Document
