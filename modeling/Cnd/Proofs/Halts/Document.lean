import Cnd.Proofs.Grammar.Document
import Cnd.Proofs.Halts.Parts

/-!
# Where declarations are complete

A mapping is complete with its last token. A node type has no closing mark: it ends in front of the
first token that is not the next one of any longer node type, where a `<` that begins a mapping does
not count (`Ends`). A node type is read exactly where it ends so and its conditions are met
(`readNodeType_eq_ok_iff`); what stands behind the next token has no influence, and neither has an
error of the scan there. So the declarations that are read of a text are the longest list of
complete ones that it begins with (`longest_readDeclarations`).
-/

namespace Cnd.Document

open Rule

variable {ending ending' : Except ScanError Position} {known : List String} {p : Position}
  {ts front rest rest' left : List Token} {d : NodeTypeDeclaration} {x y : Tree.NodeType}

/-! ## The end of a node type -/

/-- With the token behind it the node type is the beginning of another one. -/
def Continues (x : Tree.NodeType) (u : Token) : Prop :=
  ∃ y : Tree.NodeType, tokens x ++ [u] <+: tokens y

/-- The node type ends in front of the tokens `rest`. -/
structure Ends (ending : Except ScanError Position) (x : Tree.NodeType) (rest : List Token) :
    Prop where
  /-- Behind it comes the end of the text, a mapping or a token that does not continue it. -/
  next : (rest = [] ∧ ∃ p, ending = .ok p) ∨ OpensMapping rest ∨ ∃ u ∈ rest.head?, ¬ Continues x u
  /-- No shorter node type that it begins with has a mapping behind it. -/
  first : ∀ (y : Tree.NodeType) (left : List Token), tokens x = tokens y ++ left → left ≠ [] →
    ¬ OpensMapping (left ++ rest)

theorem not_opensMapping_nil : ¬ OpensMapping [] := fun ⟨⟨_, h, _⟩, _⟩ => nomatch h

theorem behindDeclaration_of_opensMapping (h : OpensMapping rest) : BehindDeclaration rest := by
  obtain ⟨⟨t, ht, hangle⟩, hequals⟩ := h
  refine ⟨fun u hu => ?_, fun _ _ _ => hequals⟩
  obtain rfl := Option.some.inj (ht.symm.trans hu)
  simp [hangle]

/-- In front of another declaration a node type is read to its end, if it is read. -/
theorem rest_of_readNodeType (hrest : BehindDeclaration rest)
    (h : readNodeType ⟨.ok p, known⟩ (tokens y ++ rest) = .ok (d, left)) : left = rest := by
  have hsettles := reads_nodeType.settles y (rfl : Context.ending ⟨.ok p, known⟩ = .ok p) hrest
  rw [h] at hsettles
  exact hsettles.of_eq_ok.2.1

/-- What is read depends on the next token alone, and on two more if it begins a mapping. -/
theorem readNodeType_of_shared {n : Nat}
    (hshared : Scan.Shared ⟨front ++ rest, ending⟩ ⟨front ++ rest', ending'⟩ n)
    (hn : front.length < n) (hopens : OpensMapping rest → front.length + 2 < n)
    (h : readNodeType ⟨ending, known⟩ (front ++ rest) = .ok (d, rest)) :
    readNodeType ⟨ending', known⟩ (front ++ rest') = .ok (d, rest') := by
  have ho := local_nodeType hshared known 0 (Nat.zero_le _)
  rw [List.drop_zero, List.drop_zero] at ho
  generalize hr : readNodeType ⟨ending, known⟩ (front ++ rest) = o at ho
  generalize hr' : readNodeType ⟨ending', known⟩ (front ++ rest') = o' at ho
  cases ho with
  | parse => cases hr.symm.trans h
  | scan => cases hr.symm.trans h
  | @ok e _ j hj hsame =>
    obtain ⟨rfl, hdrop⟩ := Prod.mk.inj (Except.ok.inj (hr.symm.trans h))
    -- The reading has stopped behind the front.
    have hlength := congrArg List.length hdrop
    rw [List.length_drop, List.length_append] at hlength
    rw [List.length_append] at hj
    obtain rfl : j = front.length := by omega
    have hdecided : Decided ⟨front ++ rest, ending⟩ n front.length := by
      refine ⟨hn, fun h => hopens ?_⟩
      rwa [List.drop_left] at h
    obtain ⟨-, rfl⟩ := hsame hdecided
    rw [List.drop_left]

/-- Where a node type was read, the scan may as well have come to its end. -/
theorem readNodeType_at_end (h : readNodeType ⟨ending, known⟩ (front ++ rest) = .ok (d, rest)) :
    ∃ p, readNodeType ⟨.ok p, known⟩ (front ++ rest) = .ok (d, rest) := by
  cases ending with
  | ok p => exact ⟨p, h⟩
  | error e =>
    have hshared : Scan.Shared ⟨front ++ rest, .error e⟩ ⟨front ++ rest, .ok .start⟩
        (front.length + 3) := Scan.shared_of_error rfl (List.prefix_refl _)
    exact ⟨.start, readNodeType_of_shared hshared (by omega) (fun _ => by omega) h⟩

/-- Nothing more is needed where the node type is over. -/
theorem readNodeType_of_ends (hmet : Met known x) (h : Ends ending x rest) :
    readNodeType ⟨ending, known⟩ (tokens x ++ rest) = .ok (Tree.nodeType x, rest) := by
  have haccepted {p : Position} {rest : List Token} (hrest : BehindDeclaration rest) :
      readNodeType ⟨.ok p, known⟩ (tokens x ++ rest) = .ok (Tree.nodeType x, rest) :=
    (reads_nodeType.settles x rfl hrest).eq_ok hmet
  rcases h.next with ⟨rfl, p, rfl⟩ | hopens | ⟨u, hu, hnot⟩
  · exact haccepted behindDeclaration_nil
  · have hread := @haccepted .start _ (behindDeclaration_of_opensMapping hopens)
    have hlength : 2 < rest.length := by
      obtain ⟨v, hv, -⟩ := hopens.2
      exact (List.getElem?_eq_some_iff.1 hv).1
    have hshared : Scan.Shared ⟨tokens x ++ rest, .ok .start⟩ ⟨tokens x ++ rest, ending⟩
        (tokens x ++ rest).length :=
      Scan.shared_of_begin (List.prefix_refl _) (List.prefix_refl _)
    rw [List.length_append] at hshared
    exact readNodeType_of_shared hshared (by omega) (fun _ => by omega) hread
  · obtain ⟨rest, rfl⟩ := List.head?_eq_some_iff.1 hu
    have hread := @haccepted .start [] behindDeclaration_nil
    rw [List.append_nil] at hread
    rcases halts_nodeType ending u rest hread with hsame | hturns
    · exact hsame
    · cases hturns with
      | on y hy => exact absurd ⟨y, hy⟩ hnot
      | early y left hleft hne hopens => exact absurd hopens (h.first y left hleft hne)

theorem exists_longer (x : Tree.NodeType) (i : Tree.Item) :
    ∃ y : Tree.NodeType, tokens y = tokens x ++ tokens i := by
  obtain ⟨a, name, b, supertypes, options, items⟩ := x
  refine ⟨(a, name, b, supertypes, options, items ++ [i]), ?_⟩
  have hitems : tokens (items ++ [i]) = tokens items ++ tokens [i] := List.flatMap_append
  simp [hitems]

/-- A node type is not left in front of what makes it a longer one. -/
theorem readNodeType_ne_of_longer {more : List Token} (hy : tokens y = tokens x ++ more)
    (hmore : more ≠ []) :
    readNodeType ⟨.ok p, known⟩ (tokens x ++ more) ≠ .ok (d, more) := by
  intro h
  rw [← hy, ← List.append_nil (tokens y)] at h
  exact hmore (rest_of_readNodeType behindDeclaration_nil h)

/-- If the scan failed behind a node type that was read, it might have gone on as well. -/
theorem ending_of_readNodeType
    (h : readNodeType ⟨ending, known⟩ (tokens x ++ []) = .ok (d, [])) : ∃ p, ending = .ok p := by
  cases ending with
  | ok p => exact ⟨p, rfl⟩
  | error e =>
    obtain ⟨item⟩ : Nonempty Tree.Item := inferInstance
    obtain ⟨y, hy⟩ := exists_longer x item
    have hshared : Scan.Shared ⟨tokens x ++ [], .error e⟩ ⟨tokens x ++ tokens item, .ok .start⟩
        ((tokens x).length + 1) :=
      Scan.shared_of_error rfl ((List.prefix_append_right_inj _).2 List.nil_prefix)
    have hread := readNodeType_of_shared hshared (by omega) (absurd · not_opensMapping_nil) h
    exact absurd hread (readNodeType_ne_of_longer hy (begins_item.tokens_ne_nil item))

theorem not_continues_of_readNodeType {u : Token} (hopens : ¬ OpensMapping (u :: rest))
    (h : readNodeType ⟨ending, known⟩ (tokens x ++ u :: rest) = .ok (d, u :: rest)) :
    ¬ Continues x u := by
  rintro ⟨y, more, hy⟩
  have hbegin (rest : List Token) : tokens x ++ [u] <+: tokens x ++ u :: rest :=
    (List.prefix_append_right_inj _).2 ⟨rest, rfl⟩
  have hshared : Scan.Shared ⟨tokens x ++ u :: rest, ending⟩ ⟨tokens x ++ u :: more, .ok .start⟩
      (tokens x ++ [u]).length := Scan.shared_of_begin (hbegin rest) (hbegin more)
  rw [List.length_append] at hshared
  have hread := readNodeType_of_shared hshared (by simp) (absurd · hopens) h
  rw [← List.append_cons] at hy
  exact readNodeType_ne_of_longer hy.symm (List.cons_ne_nil u more) hread

/-- A node type that was read is over. -/
theorem ends_of_readNodeType
    (h : readNodeType ⟨ending, known⟩ (tokens x ++ rest) = .ok (d, rest)) : Ends ending x rest where
  next := by
    rcases rest with _ | ⟨u, rest⟩
    · exact .inl ⟨rfl, ending_of_readNodeType h⟩
    · by_cases hopens : OpensMapping (u :: rest)
      · exact .inr (.inl hopens)
      · exact .inr (.inr ⟨u, rfl, not_continues_of_readNodeType hopens h⟩)
  first := by
    -- In front of the mapping the shorter node type would have been read.
    intro y left hy hne hopens
    obtain ⟨p, hread⟩ := readNodeType_at_end h
    rw [hy, List.append_assoc] at hread
    have hrest := rest_of_readNodeType (behindDeclaration_of_opensMapping hopens) hread
    exact hne (List.self_eq_append_left.1 hrest)

/-- A node type is read where its tokens stand, its conditions are met and it is over. -/
theorem readNodeType_eq_ok_iff :
    readNodeType ⟨ending, known⟩ ts = .ok (d, rest) ↔
      ∃ x : Tree.NodeType, ts = tokens x ++ rest ∧ Tree.nodeType x = d ∧ Met known x ∧
        Ends ending x rest := by
  constructor
  · intro h
    obtain ⟨x, rfl, hx, hmet⟩ := reads_nodeType.derives h
    exact ⟨x, rfl, hx, hmet, ends_of_readNodeType h⟩
  · rintro ⟨x, rfl, rfl, hmet, hends⟩
    exact readNodeType_of_ends hmet hends

/-! ## Complete declarations -/

/-- The declaration needs nothing of what comes behind it. -/
def Complete (ending : Except ScanError Position) : Tree.Declaration → List Token → Prop
  | .inl _, _ => True
  | .inr t, rest => Ends ending t rest

/-- The declarations are read one behind the other, each one complete in front of the next. -/
def Completed (ending : Except ScanError Position) :
    List String → List Tree.Declaration → List Token → Prop
  | _, [], _ => True
  | known, x :: xs, rest =>
    (Met known x ∧ Complete ending x (tokens xs ++ rest)) ∧
      Completed ending (knownBehind known (Tree.declaration x)) xs rest

/-- A mapping is read wherever its tokens stand. -/
theorem readMapping_tokens {m : Tree.Mapping} (hmet : Met known m) :
    readMapping ⟨ending, known⟩ (tokens m ++ rest) = .ok (Tree.declaration (.inl m), rest) := by
  have hread : readMapping ⟨.ok .start, known⟩ (tokens m ++ []) =
      .ok (Tree.declaration (.inl m), []) :=
    ((@reads_mapping fun _ => True).settles m rfl trivial).eq_ok hmet
  rw [List.append_nil] at hread
  exact closed_mapping ending rest hread

/-- The declarations `xs` are all that are complete from the beginning of the tokens on. -/
structure Longest (ending : Except ScanError Position) (known : List String) (ts : List Token)
    (xs : List Tree.Declaration) (rest : List Token) : Prop where
  tokens_eq : ts = tokens xs ++ rest
  completed : Completed ending known xs rest
  longest : ∀ ys rest', ts = tokens ys ++ rest' → Completed ending known ys rest' → ys <+: xs

theorem readDeclaration_eq_some_iff {d : Declaration} :
    readDeclaration ⟨ending, known⟩ ts = .ok (some d, rest) ↔
      ∃ x : Tree.Declaration, ts = tokens x ++ rest ∧ Tree.declaration x = d ∧ Met known x ∧
        Complete ending x rest := by
  constructor
  · intro h
    obtain ⟨t, mid, hpeek, hmid⟩ := of_bind_ok h
    obtain ⟨rfl, -⟩ := of_peek_ok hpeek
    split at hmid
    · cases hmid
    split at hmid
    · obtain ⟨m, hm, hsome⟩ := of_map_ok hmid
      obtain ⟨x, rfl, rfl, hmet⟩ := (@reads_mapping fun _ => True).derives hm
      cases hsome
      exact ⟨.inl x, rfl, rfl, hmet, trivial⟩
    · obtain ⟨t, ht, hsome⟩ := of_map_ok (g := some ∘ Declaration.nodeType) hmid
      obtain ⟨x, rfl, rfl, hmet, hends⟩ := readNodeType_eq_ok_iff.1 ht
      cases hsome
      exact ⟨.inr x, rfl, rfl, hmet, hends⟩
  · rintro ⟨x | x, rfl, rfl, hmet, hcomplete⟩
    · have hfront : (tokens (Sum.inl x : Tree.Declaration) ++ rest)[0]? = some x.1.1 := rfl
      rw [readDeclaration, bind_ok (peek_of_getElem? hfront), if_neg (by simp [x.1.2]),
        if_pos x.1.2]
      exact (bind_ok (readMapping_tokens hmet)).trans rfl
    · have hfront : (tokens (Sum.inr x : Tree.Declaration) ++ rest)[0]? = some x.1.1 := rfl
      rw [readDeclaration, bind_ok (peek_of_getElem? hfront), if_neg (by simp [x.1.2]),
        if_neg (by simp [x.1.2])]
      have hread := readNodeType_eq_ok_iff.2 ⟨x, rfl, rfl, hmet, hcomplete⟩
      exact (bind_ok hread).trans rfl

/-- The tokens leave no choice of where a declaration is complete. -/
theorem complete_unique {x y : Tree.Declaration} {rest' : List Token}
    (h : tokens x ++ rest = tokens y ++ rest') (hx : Met known x ∧ Complete ending x rest)
    (hy : Met known y ∧ Complete ending y rest') : x = y ∧ rest = rest' := by
  have hread := readDeclaration_eq_some_iff.2 ⟨x, rfl, rfl, hx⟩
  have hread' := readDeclaration_eq_some_iff.2 ⟨y, h, rfl, hy⟩
  obtain ⟨-, rfl⟩ := Prod.mk.inj (Except.ok.inj (hread.symm.trans hread'))
  have htokens : tokens [x] = tokens [y] := by simpa using List.append_cancel_right h
  exact ⟨(List.cons.inj (tokens_injective htokens)).1, rfl⟩

/-- Where no declaration is read, none is complete. -/
theorem longest_nil (h : ∀ d rest, readDeclaration ⟨ending, known⟩ ts ≠ .ok (some d, rest)) :
    Longest ending known ts [] ts where
  tokens_eq := rfl
  completed := trivial
  longest ys rest' hys hcompleted := by
    cases ys with
    | nil => exact List.prefix_refl []
    | cons y ys =>
      rw [tokens_cons, List.append_assoc] at hys
      exact absurd (readDeclaration_eq_some_iff.2 ⟨y, hys, rfl, hcompleted.1⟩) (h _ _)

theorem Longest.cons {x : Tree.Declaration} {xs : List Tree.Declaration}
    (hx : Met known x ∧ Complete ending x ts)
    (h : Longest ending (knownBehind known (Tree.declaration x)) ts xs rest) :
    Longest ending known (tokens x ++ ts) (x :: xs) rest where
  tokens_eq := by rw [h.tokens_eq, tokens_cons, List.append_assoc]
  completed := ⟨h.tokens_eq ▸ hx, h.completed⟩
  longest ys rest' hys hcompleted := by
    cases ys with
    | nil => exact List.nil_prefix
    | cons y ys =>
      rw [tokens_cons, List.append_assoc] at hys
      obtain ⟨rfl, hts⟩ := complete_unique hys hx hcompleted.1
      exact (List.prefix_cons_inj x).2 (h.longest ys rest' hts hcompleted.2)

/-- The declarations that are read are those that are complete. -/
theorem longest_readDeclarations (hts : ∀ t ∈ ts, t.kind ≠ .eof) :
    ∃ xs rest, Longest ending known ts xs rest ∧
      (readDeclarations ending known ts).declarations = xs.map Tree.declaration ∧
      ((readDeclarations ending known ts).failure = none → rest = []) := by
  -- By the number of tokens that are left. The known prefixes change from one declaration to
  -- the next.
  induction hn : ts.length using Nat.strongRecOn generalizing ts known with
  | ind n ih =>
    subst hn
    cases hread : readDeclaration ⟨ending, known⟩ ts with
    | error e =>
      rw [readDeclarations_error hread]
      have hnone := longest_nil fun d rest h => by cases hread.symm.trans h
      exact ⟨[], ts, hnone, rfl, nofun⟩
    | ok r =>
      obtain ⟨o, mid⟩ := r
      cases o with
      | none =>
        rw [readDeclarations_none hread]
        have hnone := longest_nil fun d rest h => by cases hread.symm.trans h
        exact ⟨[], ts, hnone, rfl, fun _ => (end_of_readDeclaration hts hread).1⟩
      | some d =>
        have hless := offers_declaration.length_lt hread
        obtain ⟨x, rfl, rfl, hx⟩ := readDeclaration_eq_some_iff.1 hread
        obtain ⟨xs, rest, hlongest, hdeclarations, hrest⟩ :=
          @ih _ hless (knownBehind known (Tree.declaration x)) mid
            (fun t ht => hts t (List.mem_append_right _ ht)) rfl
        rw [readDeclarations_some hread hless]
        exact ⟨x :: xs, rest, hlongest.cons hx, congrArg (_ :: ·) hdeclarations, hrest⟩

end Cnd.Document
