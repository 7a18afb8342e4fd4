import Cnd.Proofs.Lexical.Scan
import Mathlib.Data.List.Forall2

/-!
# Cutting a text between tokens

A text may be cut behind a lexeme or behind a complete gap (`Boundary`). What is behind the cut
scans as it would if it stood alone: to the same tokens and to the same end, all of them moved by
the length of what is in front (`scan_boundary`). So a gap may be put in at the cut, and a line
feed between two texts keeps them apart.
-/

namespace Cnd

/-- The flaw that ended a scan; none at the end of the text. -/
def Scan.flaw (s : Scan) : Option ScanError.Cause :=
  match s.ending with
  | .ok _ => none
  | .error e => some e.cause

/-- The token `u` is the token `t`, `n` characters further on. -/
structure Token.Moved (n : Int) (t u : Token) : Prop where
  kind : u.kind = t.kind
  data : u.data = t.data
  offset : u.position.offset = t.position.offset + n

namespace Lexical

open Lexer

/-! ## Complete gaps -/

/-- Blanks and complete comments: a gap whatever follows it. -/
def Complete (g : List Char) : Prop := ∀ rest, Gap g rest

/-- One gap behind another is a gap. -/
theorem Gap.append {g h rest : List Char} (hg : Gap g (h ++ rest)) (hh : Gap h rest) :
    Gap (g ++ h) rest := by
  generalize htotal : h ++ rest = total at hg
  induction hg with
  | nil => exact hh
  | blank hc _ ih => exact .blank hc (ih htotal)
  | @line body g _ hbody hend _ ih =>
    subst htotal
    rw [List.cons_append, List.cons_append, List.append_assoc]
    exact .line hbody (by rwa [List.append_assoc]) (ih rfl)
  | @block body g _ hbody _ ih =>
    have h := Gap.block hbody (ih htotal)
    simpa using h

/-- Whether a gap may stand in front of a text depends on the first character of the text. -/
theorem Gap.congr {g rest rest' : List Char} (h : Gap g rest) (hhead : rest'.head? = rest.head?) :
    Gap g rest' := by
  induction h with
  | nil => exact .nil
  | blank hc _ ih => exact .blank hc (ih hhead)
  | line hbody hend _ ih =>
    refine .line hbody (fun c hc => hend c ?_) (ih hhead)
    rw [List.head?_append] at hc ⊢
    rwa [← hhead]
  | block hbody _ ih => exact .block hbody (ih hhead)

/-- A line comment that is followed by something else than a line feed holds its own. -/
theorem Gap.complete {g rest : List Char} (h : Gap g rest) {c : Char} (hc : rest.head? = some c)
    (hne : c ≠ '\n') : Complete g := by
  intro rest'
  induction h with
  | nil => exact .nil
  | blank hblank _ ih => exact .blank hblank (ih hc)
  | @line body g _ hbody hend _ ih =>
    refine .line hbody ?_ (ih hc)
    cases g with
    | nil =>
      have hfeed := hend c (by rw [List.nil_append, hc]; exact rfl)
      exact absurd hfeed hne
    | cons d g => exact hend
  | block hbody _ ih => exact .block hbody (ih hc)

/-- A line feed completes the gap at the end of a text. -/
theorem Gap.complete_append_feed {g : List Char} (h : Gap g []) : Complete (g ++ ['\n']) := by
  intro rest
  have hblank : Gap ['\n'] rest := .blank (by decide) .nil
  refine Gap.append ?_ hblank
  -- In front of the line feed the gap ends as it does at the end of the text.
  generalize hnil : ([] : List Char) = tail at h
  induction h with
  | nil => exact .nil
  | blank hc _ ih => exact .blank hc (ih hnil)
  | @line body g _ hbody hend _ ih =>
    refine .line hbody ?_ (ih hnil)
    intro c hc
    cases g with
    | nil => exact (Option.some.inj hc).symm
    | cons d g => exact hend c hc
  | block hbody _ ih => exact .block hbody (ih hnil)

theorem Complete.append {g h : List Char} (hg : Complete g) (hh : Complete h) :
    Complete (g ++ h) :=
  fun rest => (hg (h ++ rest)).append (hh rest)

/-- Blanks make a complete gap. -/
theorem complete_of_isBlank {g : List Char} (h : ∀ c ∈ g, Text.isBlank c) : Complete g := by
  intro rest
  induction g with
  | nil => exact .nil
  | cons c g ih =>
    rw [List.forall_mem_cons] at h
    exact .blank h.1 (ih h.2)

/-- A line comment is complete with its line feed. -/
theorem complete_line {body : List Char} (h : '\n' ∉ body) :
    Complete ('/' :: '/' :: (body ++ ['\n'])) := by
  intro rest
  refine .line h (fun c hc => ?_) (.blank (by decide) .nil)
  exact (Option.some.inj hc).symm

/-- A block comment is complete with its end. -/
theorem complete_block {body : List Char} (h : ¬ ['*', '/'] <:+: body) :
    Complete ('/' :: '*' :: (body ++ ['*', '/'])) :=
  fun _ => .block h .nil

/-- The first character of a gap continues no identifier. -/
theorem Gap.head {c : Char} {g rest : List Char} (h : Gap (c :: g) rest) :
    ¬ isIdentifierPart c := by
  cases h with
  | blank hc _ => exact not_isIdentifierPart_of_isBlank hc
  | line => decide
  | block => decide

/-! ## What may follow -/

/-- Nothing that continues an identifier comes first in `rest'` and not in `rest`. -/
def Follows (rest rest' : List Char) : Prop :=
  ∀ c ∈ rest'.head?, isIdentifierPart c → c ∈ rest.head?

theorem Follows.append {rest rest' : List Char} (h : Follows rest rest') (cs : List Char) :
    Follows (cs ++ rest) (cs ++ rest') := by
  cases cs with
  | nil => exact h
  | cons d cs => exact fun c hc _ => hc

theorem Lexeme.follows {l rest rest' : List Char} {kind : Token.Kind} {data : String}
    (h : Lexeme l rest kind data) (hrest : Follows rest rest') : Lexeme l rest' kind data := by
  cases h with
  | symbol hc => exact .symbol hc
  | literal hq hraw => exact .literal hq hraw
  | identifier hfirst hpart hend =>
    exact .identifier hfirst hpart fun d hd hident => hend d (hrest d hd hident) hident

/-- The text behind some lexemes may be exchanged. -/
theorem Lexes.follows {past cs left left' : List Char} {ts : List Token}
    (h : Lexes past cs ts left) (hleft : Follows left left') :
    ∃ taken, cs = taken ++ left ∧ Lexes past (taken ++ left') ts left' := by
  induction h with
  | nil => exact ⟨[], rfl, .nil⟩
  | @cons past g l rest left kind data ts hg hl _ ih =>
    obtain ⟨taken, rfl, hlexes⟩ := ih hleft
    refine ⟨g ++ l ++ taken, by simp, ?_⟩
    obtain ⟨c, cs, rfl, -, -⟩ := hl.solid
    have hg' : Gap g (c :: cs ++ (taken ++ left')) := hg.congr rfl
    have h := Lexes.cons hg' (hl.follows (hleft.append taken)) hlexes
    simpa using h

/-! ## Moving tokens -/

/-- Lexemes are read alike wherever they stand. -/
theorem Lexes.move {past cs left : List Char} {ts : List Token} (h : Lexes past cs ts left)
    (front : List Char) :
    ∃ us, Lexes (front ++ past) cs us left ∧ List.Forall₂ (Token.Moved front.length) ts us := by
  induction h with
  | nil => exact ⟨[], .nil, .nil⟩
  | @cons past g l rest left kind data ts hg hl _ ih =>
    obtain ⟨us, hlexes, hmoved⟩ := ih
    rw [← List.append_assoc, ← List.append_assoc] at hlexes
    refine ⟨_, .cons hg hl hlexes, .cons ⟨rfl, rfl, ?_⟩ hmoved⟩
    simp only [place, List.length_append]
    omega

/-- Behind the last lexeme a scan comes to the same end, wherever that is. -/
theorem exists_flaw {left : List Char}
    (h : Gap left [] ∨ ∃ g rest cause, left = g ++ rest ∧ Gap g rest ∧ Stuck rest cause) :
    ∃ flaw, ∀ past before, (scanFrom before ⟨left, place past⟩).tokens = before.reverse ∧
      (scanFrom before ⟨left, place past⟩).flaw = flaw := by
  rcases h with hg | ⟨g, rest, cause, rfl, hg, hs⟩
  · refine ⟨none, fun past before => ?_⟩
    rw [scanFrom_end (next_end (c := ⟨left, place past⟩) hg) rfl]
    exact ⟨rfl, rfl⟩
  · refine ⟨some cause, fun past before => ?_⟩
    rw [scanFrom_error (next_stuck (c := ⟨g ++ rest, place past⟩) rfl hg hs)]
    exact ⟨rfl, rfl⟩

/-- Behind a gap the scan goes on. -/
theorem scanFrom_gap {g rest : List Char} (hg : Gap g rest) (past : List Char)
    (before : List Token) :
    scanFrom before ⟨g ++ rest, place past⟩ = scanFrom before ⟨rest, place (past ++ g)⟩ := by
  refine scanFrom_congr ?_ before
  rw [Lexer.next, Lexer.next, skipGap_append hg, place_after, Cursor.toEnd, Cursor.toEnd,
    place_after, place_after, List.append_assoc]

/-! ## Boundaries -/

/-- The text `u ++ v` may be cut behind `u`, in which the tokens `ts` are: it ends with the last of
their lexemes or with a complete gap behind it. There is no boundary behind a line comment without
its line feed, since the comment would take in what is put there. -/
def Boundary (u v : List Char) (ts : List Token) : Prop :=
  ∃ g, Lexes [] (u ++ v) ts (g ++ v) ∧ Complete g

/-- A complete gap may be put in at a boundary. -/
theorem Boundary.insert {u v w : List Char} {ts : List Token} (h : Boundary u v ts)
    (hw : Complete w) : Boundary (u ++ w) v ts := by
  obtain ⟨g, hlexes, hg⟩ := h
  refine ⟨g ++ w, ?_, hg.append hw⟩
  have hfollows : Follows (g ++ v) (g ++ (w ++ v)) := by
    refine Follows.append ?_ g
    intro c hc hident
    cases w with
    | nil => exact hc
    | cons d w =>
      cases hc
      exact absurd hident (hw v).head
  obtain ⟨taken, htaken, hlexes'⟩ := hlexes.follows hfollows
  rw [← List.append_assoc] at htaken
  rw [List.append_cancel_right htaken]
  simpa using hlexes'

/-- A text that scans to its end is gaps and lexemes in turn. -/
theorem decomposes_of_ending {source : String} {p : Position}
    (h : (scan source).ending = .ok p) : Decomposes source.toList (scan source).tokens := by
  have ha : Analysis source.toList (scan source).tokens (scan source).ending := scan_eq_iff.1 rfl
  rw [h] at ha
  cases ha with
  | complete hd => exact hd

/-- Behind a line feed that completes the last gap any text may stand. -/
theorem Lexes.boundary_feed {u v g : List Char} {ts : List Token} (h : Lexes [] (u ++ v) ts (g ++ v))
    (hg : Complete (g ++ ['\n'])) (w : List Char) : Boundary (u ++ ['\n']) w ts := by
  have hfeed : Follows v ('\n' :: w) := by
    intro c hc hident
    cases hc
    exact absurd hident (by decide)
  obtain ⟨taken, htaken, hlexes⟩ := h.follows (hfeed.append g)
  rw [← List.append_assoc] at htaken
  rw [List.append_cancel_right htaken]
  exact ⟨g ++ ['\n'], by simpa using hlexes, hg⟩

/-- What is behind a boundary may be exchanged for any text behind a line feed. -/
theorem Boundary.feed {u v : List Char} {ts : List Token} (h : Boundary u v ts) (w : List Char) :
    Boundary (u ++ ['\n']) w ts := by
  obtain ⟨g, hlexes, hg⟩ := h
  have hfeed : Complete ['\n'] :=
    complete_of_isBlank (List.forall_mem_singleton.2 (by decide))
  exact hlexes.boundary_feed (hg.append hfeed) w

/-- A text that scans to its end may be continued behind a line feed. -/
theorem Decomposes.boundary {cs : List Char} {ts : List Token} (h : Decomposes cs ts)
    (v : List Char) : Boundary (cs ++ ['\n']) v ts := by
  obtain ⟨g, hlexes, hg⟩ := h
  have hcs : Lexes [] (cs ++ []) ts (g ++ []) := by rwa [List.append_nil, List.append_nil]
  exact hcs.boundary_feed hg.complete_append_feed v

/-- The tokens may be read in two parts. -/
theorem Lexes.split {past cs left : List Char} {ts us : List Token}
    (h : Lexes past cs (ts ++ us) left) :
    ∃ taken mid, cs = taken ++ mid ∧ Lexes past cs ts mid ∧ Lexes (past ++ taken) mid us left := by
  induction ts generalizing past cs with
  | nil => exact ⟨[], cs, rfl, .nil, by rwa [List.append_nil]⟩
  | cons t ts ih =>
    cases h with
    | @cons _ g l rest _ kind data _ hg hl hrest =>
      obtain ⟨taken, mid, rfl, hts, hus⟩ := ih hrest
      refine ⟨g ++ l ++ taken, mid, by simp, .cons hg hl hts, ?_⟩
      simpa using hus

/-- A text may be cut in front of each of its lexemes. -/
theorem Lexes.boundary {cs g l rest : List Char} {ts : List Token} {kind : Token.Kind}
    {data : String} (h : Lexes [] cs ts (g ++ (l ++ rest))) (hg : Gap g (l ++ rest))
    (hl : Lexeme l rest kind data) :
    ∃ u, cs = u ++ (l ++ rest) ∧ Boundary u (l ++ rest) ts := by
  obtain ⟨taken, rfl, -⟩ := scanFrom_lexes h
  obtain ⟨c, cs, rfl, hblank, -⟩ := hl.solid
  have hfeed : c ≠ '\n' := by
    intro hc
    subst hc
    exact hblank (by decide)
  refine ⟨taken ++ g, by simp, g, ?_, hg.complete rfl hfeed⟩
  simpa using h

/-- A text may be cut in front of each of its tokens. -/
theorem Lexes.boundary_token {cs left : List Char} {ts us : List Token} {t : Token}
    (h : Lexes [] cs (ts ++ t :: us) left) :
    ∃ u v, cs = u ++ v ∧ t.position = place u ∧ Boundary u v ts := by
  obtain ⟨taken, mid, hcs, hfront, hmid⟩ := h.split
  cases hmid with
  | @cons _ g l rest _ kind data _ hg hl _ =>
    rw [List.append_assoc] at hcs hfront
    obtain ⟨u, hu, hboundary⟩ := hfront.boundary hg hl
    have htaken : taken ++ g ++ (l ++ rest) = u ++ (l ++ rest) := by
      rw [List.append_assoc, ← hcs, hu]
    refine ⟨u, l ++ rest, hu, ?_, hboundary⟩
    rw [← List.append_cancel_right htaken, List.nil_append]

/-- In front of a boundary the tokens are read, and behind it the scan goes on. -/
theorem Boundary.scan_eq {u v : List Char} {ts : List Token} (h : Boundary u v ts) :
    scan (String.ofList (u ++ v)) = scanFrom ts.reverse ⟨v, place u⟩ := by
  obtain ⟨g, hlexes, hg⟩ := h
  obtain ⟨taken, hcut, hfront⟩ := scanFrom_lexes hlexes
  rw [← List.append_assoc] at hcut
  obtain rfl := List.append_cancel_right hcut
  rw [scan, Cursor.ofString, String.toList_ofList, ← place_nil, hfront, List.append_nil,
    List.nil_append, scanFrom_gap (hg v)]

/-- Behind a boundary a text scans as it does alone, but further on. -/
theorem scan_boundary {u v : List Char} {ts : List Token} (h : Boundary u v ts) :
    ∃ us, (scan (String.ofList (u ++ v))).tokens = ts ++ us ∧
      List.Forall₂ (Token.Moved u.length) (scan (String.ofList v)).tokens us ∧
      (scan (String.ofList (u ++ v))).flaw = (scan (String.ofList v)).flaw := by
  obtain ⟨vs, left, hbehind, hleft⟩ := exists_lexes [] v
  obtain ⟨us, hmove, hmoved⟩ := hbehind.move u
  rw [List.append_nil] at hmove
  obtain ⟨flaw, hflaw⟩ := exists_flaw hleft
  -- Both scans come to what is left behind the lexemes of `v`, one of them further on.
  obtain ⟨alone, -, halone⟩ := scanFrom_lexes hbehind
  obtain ⟨moved, -, hscan⟩ := scanFrom_lexes hmove
  have hv : scan (String.ofList v) = scanFrom (vs.reverse ++ []) ⟨left, place ([] ++ alone)⟩ := by
    rw [scan, Cursor.ofString, String.toList_ofList, ← place_nil, halone]
  have huv : scan (String.ofList (u ++ v)) =
      scanFrom (us.reverse ++ ts.reverse) ⟨left, place (u ++ moved)⟩ := by
    rw [h.scan_eq, hscan]
  rw [hv, huv, (hflaw _ _).1, (hflaw _ _).1, (hflaw _ _).2, (hflaw _ _).2]
  exact ⟨us, by simp, by simpa using hmoved, rfl⟩

end Lexical

end Cnd
