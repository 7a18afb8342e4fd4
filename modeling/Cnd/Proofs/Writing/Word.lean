import Cnd.Proofs.Writing.Spelling

/-!
# Words as they are written

Wherever the lexer comes upon a word that was written, it reads that word and stops right behind
it (`written_word_read`). A quoted text may stand in front of anything. A name is bare if it is
plain, and then it must not run into more identifier characters. Whether it is plain is decided
character by character, before anything is scanned; the plain names turn out to be just those that
scan to one identifier when they stand alone (`isPlain_iff_scan`).
-/

namespace Cnd.Document

open Lexer Lexical

/-! ## Words in front of anything -/

/-- A quoted text is read to its closing quote, whatever stands behind that. -/
theorem next_renderQuoted (s : String) (rest : List Char) (pos : Position) :
    Lexer.next ⟨renderQuoted s ++ rest, pos⟩ =
      (.ok ⟨.string, some s, pos⟩, ⟨rest, pos.after (renderQuoted s)⟩) :=
  (lexeme_renderQuoted s rest).next pos

theorem next_renderName (name : String) {rest : List Char} (hrest : Apart rest)
    (pos : Position) :
    ∃ kind, Lexer.next ⟨renderName name ++ rest, pos⟩ =
        (.ok ⟨kind, some name, pos⟩, ⟨rest, pos.after (renderName name)⟩) ∧
      (kind = .identifier ↔ isPlain name) := by
  refine ⟨_, (lexeme_renderName name rest hrest).next pos, ?_⟩
  by_cases h : isPlain name
  · simp [h]
  · simp [h]

/-! ## Names that stand alone -/

theorem isPlain_iff_lexeme {name : String} :
    isPlain name ↔ Lexeme name.toList [] .identifier name := by
  refine ⟨fun h => lexeme_of_isPlain h [] apart_nil, fun h => ?_⟩
  generalize hname : name.toList = cs at h
  cases h with
  | symbol hc => exact absurd rfl (ofSymbol?_eq_some hc).2.2.1
  | identifier hfirst hpart => exact isPlain_iff.2 ⟨_, _, hname, hfirst, hpart⟩

/-- An identifier with all the text for its data leaves no room for gaps. -/
theorem lexeme_of_decomposes {name : String} {p : Position}
    (h : Decomposes name.toList [⟨.identifier, some name, p⟩]) :
    Lexeme name.toList [] .identifier name := by
  obtain ⟨left, hlexes, -⟩ := h
  generalize hname : name.toList = cs at hlexes ⊢
  cases hlexes with
  | @cons _ g l _ _ _ _ _ hg hl hnil =>
    cases hnil
    have hdata : g ++ l ++ left = l := by
      rw [← hname, hl.data_identifier, String.toList_ofList]
    have hlength := congrArg List.length hdata
    simp only [List.length_append] at hlength
    obtain rfl : g = [] := List.eq_nil_of_length_eq_zero (by omega)
    obtain rfl : left = [] := List.eq_nil_of_length_eq_zero (by omega)
    rwa [hdata]

/-- A plain name scans to itself, from the start to the end. -/
theorem scan_of_isPlain {name : String} (h : isPlain name) :
    scan name = ⟨[⟨.identifier, some name, .start⟩], .ok (place name.toList)⟩ := by
  refine scan_eq_of_analysis (.complete ⟨[], ?_, .nil⟩)
  have hlexes : Lexes [] ([] ++ name.toList ++ []) [⟨.identifier, some name, place []⟩] [] :=
    .cons .nil (isPlain_iff_lexeme.1 h) .nil
  rwa [List.append_nil, List.nil_append, place_nil] at hlexes

theorem isPlain_iff_scan {name : String} :
    isPlain name ↔ ∃ p q, scan name = ⟨[⟨.identifier, some name, p⟩], .ok q⟩ := by
  refine ⟨fun h => ⟨_, _, scan_of_isPlain h⟩, ?_⟩
  rintro ⟨p, q, hscan⟩
  cases scan_eq_iff.1 hscan with
  | complete hd => exact isPlain_iff_lexeme.2 (lexeme_of_decomposes hd)

/-! ## Words in every context -/

/-- **Words are read as they were written, in every context.** In front of a quoted text the lexer
reads a string with just that text and stops behind the closing quote. In front of a written name
that does not run into identifier characters it reads one token with that name and stops behind
it, and the token is an identifier exactly if the name is plain. The plain names are those that
scan to a single identifier with the name for its data, and nothing else up to the end. -/
theorem written_word_read :
    (∀ (s : String) (rest : List Char) (pos : Position),
      Lexer.next ⟨renderQuoted s ++ rest, pos⟩ =
        (.ok ⟨.string, some s, pos⟩, ⟨rest, pos.after (renderQuoted s)⟩)) ∧
      (∀ (name : String) (rest : List Char) (pos : Position), Apart rest →
        ∃ kind, Lexer.next ⟨renderName name ++ rest, pos⟩ =
            (.ok ⟨kind, some name, pos⟩, ⟨rest, pos.after (renderName name)⟩) ∧
          (kind = .identifier ↔ isPlain name)) ∧
      ∀ name, isPlain name ↔
        ∃ p q, scan name = ⟨[⟨.identifier, some name, p⟩], .ok q⟩ :=
  ⟨next_renderQuoted, fun name _ pos hrest => next_renderName name hrest pos,
    fun _ => isPlain_iff_scan⟩

/-- A name that begins with a hyphen, holds a quote and ends with a backslash, in front of a
comment. -/
theorem written_word_read_hyphen :
    let name := "-it's\\"
    let text := "'-it\\'s\\\\'".toList
    renderName name = text ∧ Apart "//".toList ∧
      ∃ kind, Lexer.next ⟨text ++ "//".toList, .start⟩ =
          (.ok ⟨kind, some name, .start⟩, ⟨"//".toList, ⟨1, 11, 10⟩⟩) ∧
        (kind = .identifier ↔ isPlain name) := by
  intro name text
  have htext : renderName name = text := by decide +kernel
  have hapart : Apart "//".toList := apart_cons _ (by decide)
  obtain ⟨kind, hnext, hkind⟩ := written_word_read.2.1 name "//".toList .start hapart
  rw [htext] at hnext
  exact ⟨htext, hapart, kind, hnext, hkind⟩

end Cnd.Document
