import Cnd.Document.Printer
import Cnd.Proofs.Grammar.Tree
import Cnd.Proofs.Lexical.Scan

/-!
# Texts that spell trees

What it means that a text spells a tree of the grammar (`Spells`): wherever it stands, its tokens
are those of a tree with the value and the conditions that are told. The tree is not fixed, as
its tokens carry the places where they stand.

A text that ends in a plain name must not run into more characters of one. So nothing is said
about a text in front of an identifier character, and every part of a document that stands behind
another begins with something else.
-/

namespace Cnd.Document

open Lexer Lexical

/-- The characters do not go on with an identifier that stands in front of them. -/
def Apart (cs : List Char) : Prop := ∀ c ∈ cs.head?, ¬ isIdentifierPart c

theorem Apart.append {cs rest : List Char} (h : Apart cs) (hrest : Apart rest) :
    Apart (cs ++ rest) := by
  cases cs with
  | nil => exact hrest
  | cons c cs => exact h

theorem apart_cons {c : Char} (cs : List Char) (h : ¬ isIdentifierPart c) : Apart (c :: cs) := by
  rintro _ ⟨⟩
  exact h

theorem apart_nil : Apart [] := nofun

theorem apart_flatMap {β : Type} {f : β → List Char} {bs : List β} (h : ∀ b ∈ bs, Apart (f b)) :
    Apart (bs.flatMap f) := by
  induction bs with
  | nil => exact apart_nil
  | cons b bs ih =>
    obtain ⟨hb, hbs⟩ := List.forall_mem_cons.1 h
    exact hb.append (ih hbs)

/-- The text spells a tree with the value `b`, read by `value`, and with the conditions. -/
def Spells {α β : Type} [Phrase α] (cs : List Char) (value : α → β) (b : β)
    (conds : List Condition) : Prop :=
  ∀ rest, Apart rest → ∀ pos, ∃ x : α, value x = b ∧ conditions x = conds ∧
    ∀ before, scanFrom before ⟨cs ++ rest, pos⟩ =
      scanFrom ((tokens x).reverse ++ before) ⟨rest, pos.after cs⟩

namespace Spells

variable {α α' β γ : Type} [Phrase α] [Phrase α'] {cs ds : List Char} {value : α → β}
  {value' : α' → γ} {b : β} {c : γ} {conds conds' : List Condition}

/-- The tree may be put into another one with the same tokens. -/
theorem wrap (h : Spells cs value b conds)
    (hwrap : ∀ x, value x = b → conditions x = conds →
      ∃ y, tokens y = tokens x ∧ value' y = c ∧ conditions y = conds') :
    Spells cs value' c conds' := by
  intro rest hrest pos
  obtain ⟨x, hx, hconds, hscan⟩ := h rest hrest pos
  obtain ⟨y, htokens, hy, hconds'⟩ := hwrap x hx hconds
  exact ⟨y, hy, hconds', fun before => by rw [htokens, hscan]⟩

/-- Every tree may be put into another one by `put`, which takes its value along. -/
theorem into (h : Spells cs value b conds) (put : α → α') (f : β → γ)
    (hput : ∀ x, tokens (put x) = tokens x ∧ value' (put x) = f (value x) ∧
      conditions (put x) = conditions x) :
    Spells cs value' (f b) conds := by
  refine h.wrap fun x hx hconds => ⟨put x, ?_⟩
  obtain ⟨htokens, hvalue, hconditions⟩ := hput x
  exact ⟨htokens, by rw [hvalue, hx], hconditions.trans hconds⟩

theorem map (h : Spells cs value b conds) (f : β → γ) :
    Spells cs (fun x => f (value x)) (f b) conds :=
  h.into id f fun _ => ⟨rfl, rfl, rfl⟩

theorem nothing : Spells [] (fun _ : Unit => ()) () [] :=
  fun _ _ _ => ⟨(), rfl, rfl, fun _ => rfl⟩

theorem append (h : Spells cs value b conds) (h' : Spells ds value' c conds')
    (hds : Apart ds) :
    Spells (cs ++ ds) (Prod.map value value') (b, c) (conds ++ conds') := by
  intro rest hrest pos
  obtain ⟨x, rfl, rfl, hx⟩ := h (ds ++ rest) (hds.append hrest) pos
  obtain ⟨y, rfl, rfl, hy⟩ := h' rest hrest (pos.after cs)
  refine ⟨(x, y), rfl, rfl, fun before => ?_⟩
  rw [List.append_assoc, hx, hy, Position.after_append, tokens_prod]
  simp

/-- Blanks in front of a text spell nothing. -/
theorem blank {d : Char} (hd : Text.isBlank d) (h : Spells cs value b conds) :
    Spells (d :: cs) value b conds := by
  intro rest hrest pos
  obtain ⟨x, hx, hconds, hscan⟩ := h rest hrest (pos.next d)
  refine ⟨x, hx, hconds, fun before => ?_⟩
  rw [Position.after_cons, ← hscan]
  exact scanFrom_blank hd before (cs ++ rest) pos

theorem blanks {gap : List Char} (hgap : gap.all Text.isBlank)
    (h : Spells cs value b conds) : Spells (gap ++ cs) value b conds := by
  induction gap with
  | nil => exact h
  | cons d gap ih =>
    obtain ⟨hd, hgap⟩ := Bool.and_eq_true_iff.1 hgap
    exact (ih hgap).blank hd

theorem token {q : Token → Prop} {kind : Token.Kind} {data : String}
    (hcs : ∀ rest, Apart rest → Lexeme cs rest kind data)
    (hq : ∀ pos, q ⟨kind, some data, pos⟩) :
    Spells cs (fun t : {t // q t} => t.1.text) data [] := by
  intro rest hrest pos
  refine ⟨⟨_, hq pos⟩, rfl, rfl, fun before => ?_⟩
  have hlexeme := hcs rest hrest
  rw [scanFrom_token (hlexeme.next pos) hlexeme.kind_ne_eof]
  rfl

/-- A symbol and a text behind it, which may be any. -/
theorem behind {d : Char} {kind : Token.Kind} (hd : Token.Kind.ofSymbol? d = some kind)
    (h : Spells cs value b conds) :
    Spells (d :: cs) (fun x : Tree.Symbol kind × α => value x.2) b conds := by
  intro rest hrest pos
  obtain ⟨x, rfl, rfl, hscan⟩ := h rest hrest (pos.next d)
  refine ⟨(⟨⟨kind, some (String.singleton d), pos⟩, rfl⟩, x), rfl, rfl, fun before => ?_⟩
  have hlexeme : Lexeme [d] (cs ++ rest) kind (String.singleton d) := .symbol hd
  rw [Position.after_cons]
  -- The cursor of the goal is the one behind the symbol only up to unfolding `++`.
  refine (scanFrom_token (hlexeme.next pos) hlexeme.kind_ne_eof before).trans
    ((hscan _).trans ?_)
  simp

theorem symbol {d : Char} {kind : Token.Kind} (hd : Token.Kind.ofSymbol? d = some kind) :
    Spells [d] (fun _ : Tree.Symbol kind => ()) () [] :=
  (token (fun _ _ => .symbol hd) fun _ => rfl).map fun _ => ()

/-- A text and a symbol behind it. -/
theorem upTo {d : Char} {kind : Token.Kind} (hd : Token.Kind.ofSymbol? d = some kind)
    (hpart : ¬ isIdentifierPart d) (h : Spells cs value b conds) :
    Spells (cs ++ [d]) (fun x : α × Tree.Symbol kind => value x.1) b conds :=
  (h.append (symbol hd) (apart_cons [] hpart)).wrap fun x hx hconds =>
    ⟨x, rfl, congrArg Prod.fst hx, by rw [hconds, List.append_nil]⟩

/-! ## Options and lists -/

theorem none : Spells [] (Option.map value) .none [] :=
  nothing.wrap fun _ _ _ => ⟨.none, rfl, rfl, rfl⟩

theorem some (h : Spells cs value b conds) : Spells cs (Option.map value) (.some b) conds :=
  h.into Option.some Option.some fun _ => ⟨rfl, rfl, rfl⟩

theorem nil : Spells [] (List.map value) [] [] :=
  nothing.wrap fun _ _ _ => ⟨[], rfl, rfl, rfl⟩

theorem cons {bs : List β} (h : Spells cs value b conds)
    (h' : Spells ds (List.map value) bs conds') (hds : Apart ds) :
    Spells (cs ++ ds) (List.map value) (b :: bs) (conds ++ conds') :=
  (h.append h' hds).into (fun x => x.1 :: x.2) (fun y => y.1 :: y.2) fun _ => ⟨rfl, rfl, rfl⟩

/-- One text behind the other, each for one item of a list. -/
theorem flatMap {f : γ → List Char} {r : γ → β} {g : γ → List Condition} {bs : List γ}
    (h : ∀ b ∈ bs, Spells (f b) value (r b) (g b)) (hf : ∀ b ∈ bs, Apart (f b)) :
    Spells (bs.flatMap f) (List.map value) (bs.map r) (bs.flatMap g) := by
  induction bs with
  | nil => exact nil
  | cons b bs ih =>
    obtain ⟨hb, hbs⟩ := List.forall_mem_cons.1 h
    obtain ⟨-, hfs⟩ := List.forall_mem_cons.1 hf
    exact hb.cons (ih hbs hfs) (apart_flatMap hfs)

end Spells

/-! ## Layout -/

theorem joinWith_cons (sep cs : List Char) (rest : List (List Char)) :
    joinWith sep (cs :: rest) = cs ++ rest.flatMap (sep ++ ·) := by
  induction rest generalizing cs with
  | nil => simp [joinWith]
  | cons ds rest ih => rw [joinWith, ih] <;> simp

/-! ## Words -/

/-- Between quotes, every text comes out as it went in. -/
theorem content_escapeChar (cs : List Char) : Content '\x27' (cs.flatMap escapeChar) cs := by
  induction cs with
  | nil => exact .nil
  | cons c cs ih =>
    rw [List.flatMap_cons, escapeChar]
    by_cases hslash : c = '\\'
    · subst hslash
      exact .escape ih
    by_cases hquote : c = '\x27'
    · subst hquote
      exact .escape ih
    rw [if_neg hslash, if_neg hquote]
    by_cases hfeed : c = '\n'
    · subst hfeed
      exact .escape (e := 'n') ih
    by_cases htab : c = '\t'
    · subst htab
      exact .escape (e := 't') ih
    by_cases hreturn : c = '\r'
    · subst hreturn
      exact .escape (e := 'r') ih
    rw [if_neg hfeed, if_neg htab, if_neg hreturn]
    exact .plain hquote hslash ih

theorem lexeme_renderQuoted (s : String) (rest : List Char) :
    Lexeme (renderQuoted s) rest .string s := by
  have hquote : isQuote '\x27' := by decide
  have h := @Lexeme.literal _ _ _ rest hquote (content_escapeChar s.toList)
  rwa [String.ofList_toList] at h

/-- The marks that a bare name may begin with are those that an identifier may begin with. -/
theorem isIdentifierStart_eq (c : Char) :
    isIdentifierStart c = (Text.isAlphanumeric c || [':', '.', '_'].contains c) := by
  simp [isIdentifierStart, Bool.or_assoc, Bool.beq_eq_decide_eq]

/-- The marks that a bare name may go on with are those that an identifier may go on with. -/
theorem isIdentifierPart_eq (c : Char) :
    isIdentifierPart c = (Text.isAlphanumeric c || [':', '.', '_', '-'].contains c) := by
  simp [isIdentifierPart, isIdentifierStart, Bool.or_assoc, Bool.beq_eq_decide_eq]

/-- A plain name is a run of identifier characters that begins with no hyphen. -/
theorem isPlain_iff {name : String} :
    isPlain name ↔ ∃ c cs, name.toList = c :: cs ∧ c ≠ '-' ∧ ∀ d ∈ c :: cs, isIdentifierPart d := by
  rw [isPlain]
  cases name.toList with
  | nil => simp
  | cons c cs =>
    simp only [← isIdentifierStart_eq, ← isIdentifierPart_eq]
    rw [Bool.and_eq_true, List.all_eq_true]
    constructor
    · rintro ⟨hstart, hall⟩
      exact ⟨c, cs, rfl, ne_hyphen_of_isIdentifierStart hstart, hall⟩
    · rintro ⟨_, _, ⟨⟩, hfirst, hall⟩
      exact ⟨(isIdentifierPart_iff hfirst).1 (hall c List.mem_cons_self), hall⟩

theorem lexeme_of_isPlain {name : String} (h : isPlain name) (rest : List Char)
    (hrest : Apart rest) : Lexeme name.toList rest .identifier name := by
  obtain ⟨c, cs, hname, hfirst, hparts⟩ := isPlain_iff.1 h
  have hlexeme := Lexeme.identifier hfirst hparts hrest
  rwa [← hname, String.ofList_toList] at hlexeme

/-- A written name is one lexeme, of a kind that tells whether the name is bare. -/
theorem lexeme_renderName (name : String) (rest : List Char) (hrest : Apart rest) :
    Lexeme (renderName name) rest (if isPlain name then .identifier else .string) name := by
  unfold renderName
  by_cases h : isPlain name
  · rw [if_pos h, if_pos h]
    exact lexeme_of_isPlain h rest hrest
  · rw [if_neg h, if_neg h]
    exact lexeme_renderQuoted name rest

theorem spells_quoted (s : String) : Spells (renderQuoted s) Tree.word s [] :=
  .token (fun rest _ => lexeme_renderQuoted s rest) fun _ => .inl rfl

theorem spells_word (name : String) : Spells (renderName name) Tree.word name [] :=
  .token (lexeme_renderName name) fun _ => by
    by_cases h : isPlain name
    · exact .inr (if_pos h)
    · exact .inl (if_neg h)

theorem spells_name (name : String) : Spells (renderName name) Tree.name name [.name name] :=
  (spells_word name).wrap fun x hx _ => ⟨⟨x⟩, rfl, hx, by rw [← hx]; rfl⟩

/-- The condition on the name of an item. -/
def itemNameConditions (name : String) : List Condition :=
  if name = residualName then [] else [.name name]

theorem spells_itemName (name : String) :
    Spells (renderItemName name) Tree.itemName name (itemNameConditions name) := by
  unfold renderItemName itemNameConditions
  by_cases h : name = residualName
  · rw [if_pos h, if_pos h]
    exact (Spells.symbol rfl).wrap fun t _ hconds => ⟨.inl t, rfl, h.symm, hconds⟩
  · rw [if_neg h, if_neg h]
    exact (spells_name name).into Sum.inr id fun _ => ⟨rfl, rfl, rfl⟩

/-- The variant mark in place of something. -/
theorem spells_variant {α β : Type} [Phrase α] {value : α → β} :
    Spells ['?'] (Tree.orVariant value) none [] :=
  (Spells.symbol rfl).wrap fun t _ hconds => ⟨.inl t, rfl, rfl, hconds⟩

theorem Spells.orVariant {α β : Type} [Phrase α] {cs : List Char} {value : α → β} {b : β}
    {conds : List Condition} (h : Spells cs value b conds) :
    Spells cs (Tree.orVariant value) (.some b) conds :=
  h.into Sum.inr Option.some fun _ => ⟨rfl, rfl, rfl⟩

/-- One or more texts with commas between them. -/
theorem spells_list {α β : Type} [Phrase α] {f : β → List Char} {value : α → β}
    {g : β → List Condition} (h : ∀ b, Spells (f b) value b (g b)) (b : β) (bs : List β) :
    Spells (renderList ((b :: bs).map f)) (fun l : Tree.CommaList α => (Tree.members l).map value)
      (b :: bs) ((b :: bs).flatMap g) := by
  rw [renderList, List.map_cons, joinWith_cons, List.flatMap_map]
  have hmore : Spells (bs.flatMap fun c => [',', ' '] ++ f c)
      (List.map fun x : Tree.Symbol .comma × α => value x.2) (bs.map id) (bs.flatMap g) :=
    .flatMap (fun c _ => .behind rfl (.blank (by decide) (h c))) fun c _ => apart_cons _ (by decide)
  rw [List.map_id] at hmore
  refine ((h b).append hmore (apart_flatMap fun c _ => apart_cons _ (by decide))).wrap
    fun x hx hconds => ⟨x, rfl, ?_, hconds⟩
  obtain ⟨rfl, rfl⟩ := Prod.mk.inj hx
  simp [Tree.members]

end Cnd.Document
