import Cnd.Proofs.Grammar.Document
import Cnd.Proofs.Layout.Alike

/-!
# The grammar does not see the layout

Every rule of the grammar is steady: two scans that differ in layout alone are read to the same
declarations, or to an error with the same cause at the same index (`readDeclarations_alike`). All
rules but one go by the kinds and the texts of tokens. A minus is the exception: whether a word
stands directly behind it decides if the two are a negative number.
-/

namespace Cnd.Document

open Rule

variable {a b : Scan} {t u : Token}

/-! ## What the tables of keywords see -/

theorem isKeyword_alike (h : t.Alike u) (words : List String) :
    isKeyword words t = isKeyword words u := by
  rw [isKeyword, isKeyword, h.kind, h.data]

theorem lookup?_alike {κ : Type} (h : t.Alike u) (table : List (List String × κ)) :
    lookup? table t = lookup? table u := by
  simp only [lookup?, isKeyword_alike h]

theorem nodeTypeKeyword_alike (h : t.Alike u) :
    NodeTypeKeyword.ofToken? t = NodeTypeKeyword.ofToken? u := by
  rw [NodeTypeKeyword.ofToken?, NodeTypeKeyword.ofToken?, h.kind, lookup?_alike h]

theorem itemKeyword_alike (h : t.Alike u) :
    ItemKeyword.ofToken? t = ItemKeyword.ofToken? u := by
  rw [ItemKeyword.ofToken?, ItemKeyword.ofToken?, h.kind, lookup?_alike h]

theorem propertyKeyword_alike (h : t.Alike u) :
    PropertyKeyword.ofToken? t = PropertyKeyword.ofToken? u := by
  rw [PropertyKeyword.ofToken?, PropertyKeyword.ofToken?, h.kind, lookup?_alike h]

theorem childNodeKeyword_alike (h : t.Alike u) :
    ChildNodeKeyword.ofToken? t = ChildNodeKeyword.ofToken? u := by
  rw [ChildNodeKeyword.ofToken?, ChildNodeKeyword.ofToken?, h.kind, lookup?_alike h]

/-! ## Names and values -/

theorem readName_steady (hab : a.Alike b) : Steady a b readName := by
  refine (text_parallel hab).bind fun t u htu => ?_
  rw [(hab.aligned htu).text]
  cases prefixOf? u.text with
  | none => exact .pure rfl
  | some key =>
    refine parallel_context.bind fun c d hcd => ?_
    rw [hcd]
    by_cases hkey : key ∈ d.prefixes
    · rw [if_pos hkey, if_pos hkey]
      exact .pure rfl
    · rw [if_neg hkey, if_neg hkey]
      exact parallel_fail _ htu

theorem readItemName_steady (hab : a.Alike b) : Steady a b readItemName :=
  (readName_steady hab).orSymbol hab .star residualName

theorem readNames_steady (hab : a.Alike b) : Steady a b readNames :=
  ((readName_steady hab).commaSeparated hab).bind fun l => .pure (firsts l)

section Negative

variable (context : Context) {ts : List Token}

/-- A minus and the word glued to it are taken together. -/
theorem readNegative_of_glued (h : Glued ts 0) :
    ∃ word, ts[1]? = some word ∧
      readNegative context ts = .ok (some ("-" ++ word.text), ts.drop 2) := by
  obtain ⟨sign, word, hsign, hword, hminus, hident⟩ := h
  refine ⟨word, hword, ?_⟩
  rw [readNegative, bind_ok (peek_of_getElem? hsign), if_pos hminus,
    bind_ok (peek_of_getElem? hword), if_pos hident]
  rfl

/-- Behind a minus that no word is glued to, the next token is looked at in vain. -/
theorem readNegative_of_not_glued {sign : Token} (hsign : ts[0]? = some sign)
    (hminus : sign.kind = .minus) (h : ¬ Glued ts 0) :
    readNegative context ts = (peek 1 >>= fun _ => pure none) context ts := by
  rw [readNegative, bind_ok (peek_of_getElem? hsign), if_pos hminus]
  cases hpeek : peek 1 context ts with
  | error e => rw [bind_error hpeek, bind_error hpeek]
  | ok r =>
    obtain ⟨word, rest⟩ := r
    rw [bind_ok hpeek, bind_ok hpeek, if_neg]
    rintro ⟨hword, hoffset⟩
    have hget := getElem?_of_peek_ok hpeek (by rw [hword]; decide)
    exact h ⟨sign, word, hsign, hget, hminus, hword, hoffset⟩

theorem readNegative_of_not_minus (h : ∀ t ∈ ts[0]?, t.kind ≠ .minus) :
    readNegative context ts = (peek 0 >>= fun _ => pure none) context ts := by
  rw [readNegative]
  cases hpeek : peek 0 context ts with
  | error e => rw [bind_error hpeek, bind_error hpeek]
  | ok r =>
    obtain ⟨sign, rest⟩ := r
    rw [bind_ok hpeek, bind_ok hpeek, if_neg]
    intro hminus
    exact h _ (getElem?_of_peek_ok hpeek (by rw [hminus]; decide)) hminus

end Negative

/-- A negative number is read in both readings or in neither: the minus is glued to the word in
both scans or in neither. -/
theorem readNegative_steady (hab : a.Alike b) : Steady a b readNegative := by
  have hlook (n : Nat) : Steady a b (peek n >>= fun _ => pure none) :=
    (peek_parallel hab n).bind fun _ _ _ => .pure (rfl : (none : Option String) = none)
  intro known k
  have hsign := hab.getElem?_tokens k
  have hword := hab.getElem?_tokens (k + 1)
  rw [← Nat.add_zero k, ← List.getElem?_drop, ← List.getElem?_drop] at hsign
  rw [← List.getElem?_drop, ← List.getElem?_drop] at hword
  by_cases hglued : Glued (a.tokens.drop k) 0
  · have hglued' : Glued (b.tokens.drop k) 0 := by
      rwa [glued_drop, ← hab.glued, ← glued_drop]
    obtain ⟨t, ht, hread⟩ := readNegative_of_glued ⟨a.ending, known⟩ hglued
    obtain ⟨u, hu, hread'⟩ := readNegative_of_glued ⟨b.ending, known⟩ hglued'
    rw [ht, hu] at hword
    cases hword with
    | some htu =>
      rw [hread, hread', htu.text, List.drop_drop, List.drop_drop]
      exact .ok rfl (k + 2)
  have hglued' : ¬ Glued (b.tokens.drop k) 0 := by
    rwa [glued_drop, ← hab.glued, ← glued_drop]
  by_cases hminus : ∃ t, (a.tokens.drop k)[0]? = some t ∧ t.kind = .minus
  · obtain ⟨t, ht, htkind⟩ := hminus
    rw [ht] at hsign
    generalize hu : (b.tokens.drop k)[0]? = o at hsign
    cases hsign with
    | some htu =>
      rw [readNegative_of_not_glued _ ht htkind hglued,
        readNegative_of_not_glued _ hu (htu.kind ▸ htkind) hglued']
      exact hlook 1 known k
  · have hfront : ∀ t ∈ (a.tokens.drop k)[0]?, t.kind ≠ .minus :=
      fun t ht htkind => hminus ⟨t, ht, htkind⟩
    have hfront' : ∀ u ∈ (b.tokens.drop k)[0]?, u.kind ≠ .minus := by
      intro u hu hukind
      rw [Option.mem_def.1 hu] at hsign
      generalize ht : (a.tokens.drop k)[0]? = o at hsign
      cases hsign with
      | some htu => exact hminus ⟨_, ht, htu.kind.trans hukind⟩
    rw [readNegative_of_not_minus _ hfront, readNegative_of_not_minus _ hfront']
    exact hlook 0 known k

theorem readValue_steady (hab : a.Alike b) : Steady a b readValue := by
  refine (readNegative_steady hab).otherwise ?_
  refine (text_parallel hab).bind fun t u htu => ?_
  rw [(hab.aligned htu).text]
  exact .pure rfl

theorem readValues_steady (hab : a.Alike b) : Steady a b readValues :=
  (readValue_steady hab).commaSeparated hab

/-! ## Options and attributes -/

theorem variant_steady (hab : a.Alike b) : Steady a b variant := accept_steady hab .question

theorem readNodeTypeOption_steady (hab : a.Alike b) : Steady a b readNodeTypeOption := by
  refine .phrase hab (fun t u h => nodeTypeKeyword_alike h) fun k => ?_
  cases k with
  | orderable => exact (variant_steady hab).bind fun v => .pure _
  | mixin => exact (variant_steady hab).bind fun v => .pure _
  | abstract => exact (variant_steady hab).bind fun v => .pure _
  | noQuery => exact .pure _
  | query => exact .pure _
  | primaryItem => exact ((readName_steady hab).orVariant hab).bind fun n => .pure _

theorem readItemAttribute_steady (hab : a.Alike b) : Steady a b readItemAttribute := by
  refine .phrase hab (fun t u h => itemKeyword_alike h) fun k => ?_
  cases k with
  | autocreated => exact (variant_steady hab).bind fun v => .pure _
  | mandatory => exact (variant_steady hab).bind fun v => .pure _
  | protectedItem => exact (variant_steady hab).bind fun v => .pure _
  | primary => exact .pure _
  | anyVersion => exact (expect_parallel hab .question).bind fun _ _ _ => .pure rfl
  | onParentVersion v => exact .pure _

theorem readOperatorList_steady (hab : a.Alike b) : Steady a b readOperatorList := by
  refine (expect_parallel hab .string).bind fun t u htu => ?_
  rw [(hab.aligned htu).text]
  cases readQueryOperators u.text with
  | ok operators => exact .pure rfl
  | error piece => exact parallel_fail _ htu

theorem readPropertyPhrase_steady (hab : a.Alike b) : Steady a b readPropertyPhrase := by
  refine .phrase hab (fun t u h => propertyKeyword_alike h) fun k => ?_
  cases k with
  | multiple => exact (variant_steady hab).bind fun v => .pure _
  | queryOperators => exact ((readOperatorList_steady hab).orVariant hab).bind fun o => .pure _
  | noFullText => exact (variant_steady hab).bind fun v => .pure _
  | noQueryOrder => exact (variant_steady hab).bind fun v => .pure _

theorem readPropertyAttribute_steady (hab : a.Alike b) : Steady a b readPropertyAttribute :=
  ((readItemAttribute_steady hab).map _).orElse (readPropertyPhrase_steady hab)

theorem readChildNodePhrase_steady (hab : a.Alike b) : Steady a b readChildNodePhrase := by
  refine .phrase hab (fun t u h => childNodeKeyword_alike h) fun k => ?_
  cases k
  exact (variant_steady hab).bind fun v => .pure _

theorem readChildNodeAttribute_steady (hab : a.Alike b) : Steady a b readChildNodeAttribute :=
  ((readItemAttribute_steady hab).map _).orElse (readChildNodePhrase_steady hab)

/-! ## Items -/

theorem readTypeName_steady (hab : a.Alike b) : Steady a b readTypeName := by
  refine (expect_parallel hab .identifier).bind fun t u htu => ?_
  rw [(hab.aligned htu).text]
  cases propertyType? u.text with
  | some type => exact .pure rfl
  | none => exact parallel_fail _ htu

theorem readPropertyType_steady (hab : a.Alike b) : Steady a b readPropertyType :=
  ((readTypeName_steady hab).orVariant hab).orSymbol hab .star _

/-- The look at the token two places on comes out the same. -/
theorem atMapping_steady (hab : a.Alike b) : Steady a b atMapping := by
  refine (peek_parallel hab 2).bind fun t u htu => ?_
  rw [(hab.aligned htu).kind]
  exact .pure rfl

theorem readConstraints_steady (hab : a.Alike b) : Steady a b readConstraints := by
  refine (peek_parallel hab 0).bind fun t u htu => ?_
  rw [(hab.aligned htu).kind]
  refine Steady.ite ?_ (.pure none)
  refine (atMapping_steady hab).bind fun mapping => Steady.ite (.pure none) ?_
  exact ((readValues_steady hab).orVariant hab).behind hab .leftAngle

theorem readProperty_steady (hab : a.Alike b) : Steady a b readProperty := by
  refine (readItemName_steady hab).bind fun name => ?_
  refine (((readPropertyType_steady hab).upTo hab .rightParen).behind hab .leftParen).bind
    fun type => ?_
  refine (((readValues_steady hab).orVariant hab).behind hab .equals).bind fun defaults => ?_
  refine ((readPropertyAttribute_steady hab).many hab).bind fun attributes => ?_
  exact (readConstraints_steady hab).bind fun constraints => .pure _

theorem readChildNode_steady (hab : a.Alike b) : Steady a b readChildNode := by
  refine (readItemName_steady hab).bind fun name => ?_
  refine ((((readNames_steady hab).orVariant hab).upTo hab .rightParen).behind hab .leftParen).bind
    fun types => ?_
  refine (((readName_steady hab).orVariant hab).behind hab .equals).bind fun default => ?_
  exact ((readChildNodeAttribute_steady hab).many hab).bind fun attributes => .pure _

theorem readItem_steady (hab : a.Alike b) : Steady a b readItem :=
  (((readProperty_steady hab).behind hab .minus).map _).orElse
    (((readChildNode_steady hab).behind hab .plus).map _)

/-! ## Declarations -/

theorem readMapping_steady (hab : a.Alike b) : Steady a b readMapping := by
  refine (expect_parallel hab .leftAngle).bind fun _ _ _ => ?_
  refine (text_parallel hab).bind fun key key' hkey => ?_
  refine (expect_parallel hab .equals).bind fun _ _ _ => ?_
  refine (text_parallel hab).bind fun uri uri' huri => ?_
  refine (expect_parallel hab .rightAngle).bind fun _ _ _ => ?_
  rw [(hab.aligned hkey).text, (hab.aligned huri).text]
  exact .pure rfl

theorem readNodeType_steady (hab : a.Alike b) : Steady a b readNodeType := by
  refine (expect_parallel hab .leftBracket).bind fun _ _ _ => ?_
  refine (readName_steady hab).bind fun name => ?_
  refine (expect_parallel hab .rightBracket).bind fun _ _ _ => ?_
  refine (((readNames_steady hab).orVariant hab).behind hab .rightAngle).bind fun supertypes => ?_
  refine ((readNodeTypeOption_steady hab).many hab).bind fun options => ?_
  exact ((readItem_steady hab).many hab).bind fun items => .pure _

theorem readDeclaration_steady (hab : a.Alike b) : Steady a b readDeclaration := by
  refine (peek_parallel hab 0).bind fun t u htu => ?_
  rw [(hab.aligned htu).kind]
  refine Steady.ite (.pure none) (Steady.ite ?_ ?_)
  · exact (readMapping_steady hab).bind fun m => .pure _
  · exact (readNodeType_steady hab).bind fun t => .pure _

/-! ## Documents -/

/-- The errors that stopped two readings have the same cause. Errors of the grammar are about the
tokens at the same index; an error of the scan is the one that the scan ended with. -/
inductive Failure.Alike (a b : Scan) : Failure → Failure → Prop
  | parse {t u : Token} (cause : ParseError.Cause) (h : a.Aligned b t u) :
      Failure.Alike a b (.parse ⟨cause, t⟩) (.parse ⟨cause, u⟩)
  | scan {e f : ScanError} (ha : a.ending = .error e) (hb : b.ending = .error f) :
      Failure.Alike a b (.scan e) (.scan f)

/-- Two documents that differ in layout alone have the same declarations, and stop for the same
cause at the same index if they cannot be read to the end. -/
theorem readDeclarations_alike (hab : a.Alike b) (known : List String) (k : Nat) :
    (readDeclarations a.ending known (a.tokens.drop k)).declarations =
        (readDeclarations b.ending known (b.tokens.drop k)).declarations ∧
      Option.Rel (Failure.Alike a b)
        (readDeclarations a.ending known (a.tokens.drop k)).failure
        (readDeclarations b.ending known (b.tokens.drop k)).failure := by
  -- By the number of tokens that are left. The known prefixes change from one declaration to
  -- the next.
  induction hn : (a.tokens.drop k).length using Nat.strongRecOn generalizing k known with
  | ind n ih =>
    subst hn
    have hlength (j : Nat) : (b.tokens.drop j).length = (a.tokens.drop j).length := by
      rw [List.length_drop, List.length_drop, hab.length_eq]
    have ho := readDeclaration_steady hab known k
    generalize hr : readDeclaration ⟨a.ending, known⟩ (a.tokens.drop k) = o at ho
    generalize hr' : readDeclaration ⟨b.ending, known⟩ (b.tokens.drop k) = o' at ho
    cases ho with
    | parse cause htu =>
      rw [readDeclarations_error hr, readDeclarations_error hr']
      exact ⟨rfl, .some (.parse cause htu)⟩
    | scan ha hb =>
      rw [readDeclarations_error hr, readDeclarations_error hr']
      exact ⟨rfl, .some (.scan ha hb)⟩
    | @ok x y hxy j =>
      subst hxy
      cases x with
      | none =>
        rw [readDeclarations_none hr, readDeclarations_none hr']
        exact ⟨rfl, .none⟩
      | some d =>
        by_cases hless : (a.tokens.drop j).length < (a.tokens.drop k).length
        · have hless' : (b.tokens.drop j).length < (b.tokens.drop k).length := by
            rwa [hlength, hlength]
          obtain ⟨hds, hfailure⟩ := ih _ hless (knownBehind known d) j rfl
          rw [readDeclarations_some hr hless, readDeclarations_some hr' hless']
          exact ⟨congrArg (d :: ·) hds, hfailure⟩
        · rw [readDeclarations, readDeclarations, hr, hr']
          simp only [hlength]
          rw [dif_neg hless, dif_neg hless]
          exact ⟨rfl, .none⟩

end Cnd.Document
