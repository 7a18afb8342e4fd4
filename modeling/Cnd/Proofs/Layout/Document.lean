import Cnd.Proofs.Layout.Rules

/-!
# Layout does not matter

Two texts with the same tokens and the same glued minuses are parsed alike, and a gap that is put
in between two tokens moves what is behind it and changes nothing else (`parse_layout`).
-/

namespace Cnd

open Lexical

/-! ## Moved tokens -/

section Moved

variable {ts us us' vs : List Token} {n m : Int} {i : Nat}

theorem Token.Moved.alike {t u : Token} (h : t.Moved n u) : t.Alike u :=
  ⟨h.kind.symm, h.data.symm⟩

/-- Tokens that are moved together stay glued or apart. -/
theorem glued_of_moved (h : List.Forall₂ (Token.Moved n) ts us) (i : Nat) :
    Glued ts i ↔ Glued us i := by
  have hsign := rel_getElem? h i
  have hword := rel_getElem? h (i + 1)
  rw [Glued, Glued]
  generalize ts[i]? = sign, us[i]? = sign' at hsign
  generalize ts[i + 1]? = word, us[i + 1]? = word' at hword
  cases hsign with
  | none => simp
  | some hs =>
    cases hword with
    | none => simp
    | some hw =>
      have hs' := hs.offset
      have hw' := hw.offset
      constructor
      · rintro ⟨_, _, ⟨⟩, ⟨⟩, hminus, hident, hoffset⟩
        exact ⟨_, _, rfl, rfl, hs.kind.trans hminus, hw.kind.trans hident, by omega⟩
      · rintro ⟨_, _, ⟨⟩, ⟨⟩, hminus, hident, hoffset⟩
        exact ⟨_, _, rfl, rfl, hs.kind ▸ hminus, hw.kind ▸ hident, by omega⟩

theorem glued_append_of_lt (h : i + 1 < ts.length) : Glued (ts ++ us) i ↔ Glued ts i := by
  rw [Glued, Glued, List.getElem?_append_left (by omega), List.getElem?_append_left h]

theorem glued_append_length (i : Nat) : Glued (ts ++ us) (ts.length + i) ↔ Glued us i := by
  simp only [Glued, Nat.add_assoc, List.getElem?_append_right (Nat.le_add_right ..),
    Nat.add_sub_cancel_left]

/-- Tokens that are moved from the same ones differ in their places alone. -/
theorem forall₂_alike_of_moved (h : List.Forall₂ (Token.Moved n) vs ts)
    (h' : List.Forall₂ (Token.Moved m) vs us) : List.Forall₂ Token.Alike ts us := by
  induction h generalizing us with
  | nil =>
    cases h'
    exact .nil
  | cons ht _ ih =>
    cases h' with
    | cons hu h' => exact .cons ⟨ht.kind.trans hu.kind.symm, ht.data.trans hu.data.symm⟩ (ih h')

/-- A gap glues nothing together: the tokens behind it are further on than without it. -/
theorem glued_of_glued_border (hnm : n ≤ m) (h : List.Forall₂ (Token.Moved n) vs us)
    (h' : List.Forall₂ (Token.Moved m) vs us')
    (hoffsets : (ts ++ us).Pairwise fun t u => t.position.offset < u.position.offset)
    (hi : ts.length = i + 1) (hglued : Glued (ts ++ us') i) : Glued (ts ++ us) i := by
  obtain ⟨sign, word', hsign, hword', hminus, hident, hoffset⟩ := hglued
  rw [List.getElem?_append_left (by omega)] at hsign
  rw [List.getElem?_append_right (by omega), hi, Nat.sub_self] at hword'
  have hfirst := rel_getElem? h 0
  have hfirst' := rel_getElem? h' 0
  rw [hword'] at hfirst'
  generalize vs[0]? = first at hfirst hfirst'
  generalize hword : us[0]? = word at hfirst
  cases hfirst' with
  | some hmoved' =>
    cases hfirst with
    | @some _ word hmoved =>
      have hless := (List.pairwise_append.1 hoffsets).2.2 sign (List.mem_of_getElem? hsign) word
        (List.mem_of_getElem? hword)
      have hplace := hmoved.offset
      have hplace' := hmoved'.offset
      refine ⟨sign, word, ?_, ?_, hminus, ?_, by omega⟩
      · rwa [List.getElem?_append_left (by omega)]
      · rwa [List.getElem?_append_right (by omega), hi, Nat.sub_self]
      · rw [hmoved.kind, ← hmoved'.kind, hident]

end Moved

/-! ## A gap at a boundary -/

/-- A gap at a boundary moves what is behind it and changes nothing else. -/
theorem Scan.alike_insert {u v w : List Char} {ts : List Token} (h : Boundary u v ts)
    (hw : Complete w)
    (hborder : ∀ i, ts.length = i + 1 → ¬ Glued (scan (String.ofList (u ++ v))).tokens i) :
    (scan (String.ofList (u ++ v))).Alike (scan (String.ofList (u ++ w ++ v))) := by
  obtain ⟨us, hscan, hmoved, hflaw⟩ := scan_boundary h
  obtain ⟨us', hscan', hmoved', hflaw'⟩ := scan_boundary (h.insert hw)
  refine ⟨?_, fun i => ?_, hflaw.trans hflaw'.symm⟩
  · rw [hscan, hscan']
    refine List.rel_append ?_ (forall₂_alike_of_moved hmoved hmoved')
    exact List.forall₂_same.2 fun t _ => ⟨rfl, rfl⟩
  · rw [hscan, hscan']
    rcases Nat.lt_trichotomy (i + 1) ts.length with hlt | heq | hgt
    · rw [glued_append_of_lt hlt, glued_append_of_lt hlt]
    · have hlength : (u.length : Int) ≤ (u ++ w).length := by
        rw [List.length_append]
        omega
      have hoffsets := pairwise_offset_scan (String.ofList (u ++ v))
      rw [hscan] at hoffsets hborder
      have hapart := hborder i heq.symm
      refine iff_of_false hapart fun hglued => hapart ?_
      exact glued_of_glued_border hlength hmoved hmoved' hoffsets heq.symm hglued
    · obtain ⟨j, rfl⟩ := Nat.exists_eq_add_of_le (Nat.lt_succ_iff.1 hgt)
      rw [glued_append_length, glued_append_length, ← glued_of_moved hmoved,
        ← glued_of_moved hmoved']

/-! ## Parsing -/

namespace Document

variable {a b : String}

/-- Two parses come to the same: to one schema, or to errors of the grammar in the same words,
about the tokens at one index. -/
inductive Agree (a b : Scan) : Except Failure Schema → Except Failure Schema → Prop
  | parsed (s : Schema) : Agree a b (.ok s) (.ok s)
  | refused {e f : ParseError} (htext : e.text = f.text)
      (hexpectation : e.expectation = f.expectation) (htoken : a.Aligned b e.token f.token) :
      Agree a b (.error (.parse e)) (.error (.parse f))

/-- Texts that differ in layout alone are parsed alike, up to the error of the scan that they
share if they cannot be scanned to the end. -/
theorem parse_alike (h : (scan a).Alike (scan b)) (namespaces : Namespaces) :
    Agree (scan a) (scan b) (parse namespaces a) (parse namespaces b) ∨
      ∃ e f, (scan a).ending = .error e ∧ (scan b).ending = .error f ∧ e.text = f.text ∧
        parse namespaces a = .error (.scan e) ∧ parse namespaces b = .error (.scan f) := by
  obtain ⟨hds, hfailure⟩ := readDeclarations_alike h (Namespaces.builtin.keys ++ namespaces.keys) 0
  rw [List.drop_zero, List.drop_zero] at hds hfailure
  rw [parse, parse, Reading.schema, Reading.schema, read, read]
  generalize readDeclarations (scan a).ending _ _ = r at hds hfailure
  generalize readDeclarations (scan b).ending _ _ = r' at hds hfailure
  obtain ⟨ds, failure⟩ := r
  obtain ⟨ds', failure'⟩ := r'
  subst hds
  cases hfailure with
  | none => exact .inl (.parsed _)
  | some hfailure =>
    cases hfailure with
    | parse cause htu => exact .inl (.refused rfl rfl htu)
    | @scan e f ha hb =>
      refine .inr ⟨e, f, ha, hb, ?_, rfl, rfl⟩
      rw [ScanError.text, ScanError.text, h.cause ha hb]

/-- **Layout does not matter.** Texts whose tokens differ in their places alone, and whose minuses
are glued to the same words, are parsed to the same schema or refused in the same words at the same
token. A complete gap may be put in at each boundary between tokens but behind a minus that a word
is glued to: the tokens behind it are further on, and all else stays as it is. -/
theorem parse_layout (namespaces : Namespaces) :
    (∀ a b p q, (scan a).ending = .ok p → (scan b).ending = .ok q →
      List.Forall₂ Token.Alike (scan a).tokens (scan b).tokens →
      (∀ i, Glued (scan a).tokens i ↔ Glued (scan b).tokens i) →
        Agree (scan a) (scan b) (parse namespaces a) (parse namespaces b)) ∧
    ∀ u v w ts, Boundary u v ts → Complete w →
      (∀ i, ts.length = i + 1 → ¬ Glued (scan (String.ofList (u ++ v))).tokens i) →
        (scan (String.ofList (u ++ v))).Alike (scan (String.ofList (u ++ w ++ v))) ∧
        (Agree (scan (String.ofList (u ++ v))) (scan (String.ofList (u ++ w ++ v)))
            (parse namespaces (String.ofList (u ++ v)))
            (parse namespaces (String.ofList (u ++ w ++ v))) ∨
          ∃ e f, e.text = f.text ∧
            parse namespaces (String.ofList (u ++ v)) = .error (.scan e) ∧
            parse namespaces (String.ofList (u ++ w ++ v)) = .error (.scan f)) := by
  refine ⟨fun a b p q ha hb htokens hglued => ?_, fun u v w ts huv hw hborder => ?_⟩
  · have hflaw : (scan a).flaw = (scan b).flaw := by rw [Scan.flaw, Scan.flaw, ha, hb]
    rcases parse_alike ⟨htokens, hglued, hflaw⟩ namespaces with h | ⟨e, f, he, -⟩
    · exact h
    · rw [ha] at he
      cases he
  · have halike := Scan.alike_insert huv hw hborder
    refine ⟨halike, ?_⟩
    rcases parse_alike halike namespaces with h | ⟨e, f, -, -, h⟩
    · exact .inl h
    · exact .inr ⟨e, f, h⟩

/-- A comment in the constraints of a property, between the `<` and the first of them. -/
theorem parse_layout_comment :
    let source := "[a]\n- p <\n'x', -1"
    let spaced := "[a]\n- p <\n/* - */ // =\n'x', -1"
    ∃ s, parse .empty source = .ok s ∧ parse .empty spaced = .ok s := by
  intro source spaced
  have hend : (scan "[a]\n- p <").ending = .ok ⟨2, 6, 9⟩ := by decide +kernel
  have hcut := (decomposes_of_ending hend).boundary "'x', -1".toList
  have hgap : Complete "/* - */ // =\n".toList := by
    have hblock : Complete "/* - */".toList := @complete_block " - ".toList (by decide)
    have hblank : Complete [' '] :=
      complete_of_isBlank (List.forall_mem_singleton.2 (by decide))
    have hline : Complete "// =\n".toList := @complete_line " =".toList (by decide)
    exact (hblock.append hblank).append hline
  have hborder : ∀ i, (scan "[a]\n- p <").tokens.length = i + 1 →
      ¬ Glued (scan source).tokens i := by
    rintro i hi ⟨sign, word, hsign, -, hminus, -⟩
    have hlength : (scan "[a]\n- p <").tokens.length = 6 := by decide +kernel
    obtain rfl : i = 5 := by omega
    have hangle : (scan source).tokens[5]?.map (·.kind) = some .leftAngle := by decide +kernel
    rw [hsign, Option.map_some, hminus] at hangle
    cases hangle
  have hspaced : (scan source).Alike (scan spaced) :=
    ((parse_layout .empty).2 _ _ _ _ hcut hgap hborder).1
  have hsource : (scan source).ending = .ok ⟨3, 8, 17⟩ := by decide +kernel
  have hspaced' : (scan spaced).ending = .ok ⟨4, 8, 30⟩ := by decide +kernel
  have hagree := (parse_layout .empty).1 source spaced _ _ hsource hspaced' hspaced.tokens
    hspaced.glued
  have hok : parse .empty source = .ok (toSchema (read .empty source).declarations) :=
    Reading.schema_eq_ok_iff.2 ⟨by decide +kernel, rfl⟩
  rw [hok] at hagree
  generalize parse .empty spaced = o at hagree ⊢
  cases hagree
  exact ⟨_, hok, rfl⟩

end Document

end Cnd
