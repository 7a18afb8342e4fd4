import Cnd.Yaml.Builder

/-!
# Keys of YAML mappings

No key comes twice in a mapping that is built from a YAML document (`distinct_of_read`): an entry
whose key is there already takes its place. The invariant is about all values that are built so
far, and every step of the building keeps it.
-/

namespace Cnd.Yaml

/-- No key comes again behind an entry. -/
def Distinct {α : Type} (entries : List (Atom × α)) : Prop :=
  entries.Pairwise fun e f => ¬ e.1.same f.1

theorem same_string (s : String) : (Atom.string s).same (.string s) := by
  simp [Atom.same, Atom.size?, Atom.compare?]

namespace Builder

/-- The mappings among the values have no key twice. -/
def Sound (values : Array (Option Value)) : Prop :=
  ∀ (n : Nat) (entries : List (Atom × Nat)),
    values[n]? = some (some (.mapping entries)) → Distinct entries

/-! ## Steps that keep the values sound -/

/-- Where the rule comes to an end, it leaves sound values as such. -/
def Keeps {α : Type} (r : Rule α) : Prop :=
  ∀ s a s', Sound s.values → r.run s = .ok (a, s') → Sound s'.values

/-- Where the rule comes to an end, its value is as `post` says. -/
def Gives {α : Type} (r : Rule α) (post : α → Prop) : Prop :=
  ∀ s a s', r.run s = .ok (a, s') → post a

section Steps

variable {α β : Type} {r : Rule α} {f : α → Rule β} {post : α → Prop} {post' : β → Prop}

theorem of_run_bind {s s' : State} {b : β} (h : (r >>= f).run s = .ok (b, s')) :
    ∃ a mid, r.run s = .ok (a, mid) ∧ (f a).run mid = .ok (b, s') := by
  rw [StateT.run_bind] at h
  cases hr : r.run s with
  | error e => rw [hr] at h; cases h
  | ok x =>
    rw [hr] at h
    exact ⟨x.1, x.2, rfl, h⟩

theorem Gives.bind (h : ∀ a, Gives (f a) post') : Gives (r >>= f) post' := by
  intro s b s' hrun
  obtain ⟨a, mid, -, hb⟩ := of_run_bind hrun
  exact h a mid b s' hb

namespace Keeps

theorem pure (a : α) : Keeps (pure a) := by
  rintro s _ _ hs ⟨⟩
  exact hs

theorem throw (e : Fault) : Keeps (throw e : Rule α) := by
  rintro s a s' - ⟨⟩

theorem bind_of (h : Keeps r) (hr : Gives r post) (hf : ∀ a, post a → Keeps (f a)) :
    Keeps (r >>= f) := by
  intro s b s' hs hrun
  obtain ⟨a, mid, ha, hb⟩ := of_run_bind hrun
  exact hf a (hr s a mid ha) mid b s' (h s a mid hs ha) hb

theorem bind (h : Keeps r) (hf : ∀ a, Keeps (f a)) : Keeps (r >>= f) :=
  h.bind_of (fun _ _ _ _ => trivial) fun a _ => hf a

theorem get : Keeps (MonadState.get : Rule State) := by
  rintro s _ _ hs ⟨⟩
  exact hs

theorem modify {g : State → State} (h : ∀ s, Sound s.values → Sound (g s).values) :
    Keeps (modify g : Rule Unit) := by
  rintro s _ _ hs ⟨⟩
  exact h s hs

theorem lift (x : Except Fault α) : Keeps (liftM x) := by
  intro s a s' hs hrun
  cases x with
  | error e => cases hrun
  | ok b =>
    cases hrun
    exact hs

theorem discard (h : Keeps r) : Keeps (discard r) :=
  h.bind fun _ => .pure _

theorem forM {l : List α} {f : α → Rule PUnit} (h : ∀ a, Keeps (f a)) : Keeps (l.forM f) := by
  induction l with
  | nil => exact .pure _
  | cons a l ih => exact (h a).bind fun _ => ih

theorem mapM {l : List α} (h : ∀ a, Keeps (f a)) : Keeps (l.mapM f) := by
  induction l with
  | nil => exact .pure _
  | cons a l ih =>
    rw [List.mapM_cons]
    exact (h a).bind fun _ => ih.bind fun _ => .pure _

end Keeps

end Steps

/-! ## Entries -/

theorem fst_insert {key : Atom} {n : Nat} {entries : List (Atom × Nat)} {e : Atom × Nat}
    (h : e ∈ insert key n entries) : e.1 = key ∨ e.1 ∈ entries.map (·.1) := by
  induction entries with
  | nil => exact .inl (congrArg Prod.fst (List.mem_singleton.1 h))
  | cons f rest ih =>
    rw [insert] at h
    split at h
    · rcases List.mem_cons.1 h with rfl | h
      · exact .inr List.mem_cons_self
      · exact .inr (List.mem_cons_of_mem _ (List.mem_map_of_mem h))
    · rcases List.mem_cons.1 h with rfl | h
      · exact .inr List.mem_cons_self
      · exact (ih h).imp_right (List.mem_cons_of_mem _)

/-- An entry whose key is there takes its place, and one whose key is new comes behind. -/
theorem distinct_insert {key : Atom} {n : Nat} {entries : List (Atom × Nat)}
    (h : Distinct entries) : Distinct (insert key n entries) := by
  induction entries with
  | nil => exact List.pairwise_singleton _ _
  | cons e rest ih =>
    obtain ⟨k, m⟩ := e
    rw [Distinct, List.pairwise_cons] at h
    rw [insert]
    by_cases hk : k.same key
    · rw [if_pos hk]
      exact List.pairwise_cons.2 h
    · rw [if_neg hk]
      refine List.pairwise_cons.2 ⟨fun e he => ?_, ih h.2⟩
      rcases fst_insert he with hkey | hmem
      · rwa [hkey]
      · obtain ⟨e', he', hsame⟩ := List.mem_map.1 hmem
        rw [← hsame]
        exact h.1 e' he'

theorem gives_visitEntries {entries : List (Nat × Nat)} {done : List (Atom × Nat)}
    (h : Distinct done) : Gives (visitEntries entries done) Distinct := by
  induction entries generalizing done with
  | nil =>
    rintro s _ _ ⟨⟩
    exact h
  | cons e entries ih =>
    refine .bind fun v => ?_
    split
    · exact .bind fun _ => ih (distinct_insert h)
    · rintro s a s' ⟨⟩

theorem gives_entriesOf (n : Nat) : Gives (entriesOf n) Distinct :=
  .bind fun _ => .bind fun _ => .bind fun _ => gives_visitEntries .nil

/-! ## Values -/

/-- A mapping has no key twice. -/
def SoundValue (v : Value) : Prop := ∀ entries, v = .mapping entries → Distinct entries

theorem Sound.set {values : Array (Option Value)} {n : Nat} {v : Value} (h : Sound values)
    (hv : SoundValue v) : Sound (values.setIfInBounds n (some v)) := by
  intro m entries hm
  rw [Array.getElem?_setIfInBounds] at hm
  split at hm
  · split at hm
    · exact hv _ (Option.some.inj (Option.some.inj hm))
    · cases hm
  · exact h m entries hm

theorem keeps_setValue {n : Nat} {v : Value} (hv : SoundValue v) : Keeps (setValue n v) :=
  .modify fun _ hs => hs.set hv

theorem keeps_tagOf (n : Nat) : Keeps (tagOf n) := Keeps.get.bind fun _ => .pure _

theorem keeps_contentOf (n : Nat) : Keeps (contentOf n) := by
  refine Keeps.get.bind fun s => ?_
  split
  · exact .pure _
  · exact .throw _

theorem keeps_readAtom (n : Nat) : Keeps (readAtom n) := by
  refine Keeps.get.bind fun s => (Keeps.lift _).bind fun text => ?_
  refine (keeps_tagOf n).bind fun tag => ?_
  split
  · exact (Keeps.throw _).bind fun _ => .lift _
  · exact .lift _

theorem soundValue_emptyOf {tag : Tag} {v : Value} (h : emptyOf? tag = some v) : SoundValue v := by
  rintro entries rfl
  cases tag <;> cases h
  exact .nil

theorem keeps_visit (n : Nat) : Keeps (visit n) := by
  rw [visit]
  refine Keeps.get.bind fun s => ?_
  split
  · exact .pure _
  · refine (keeps_tagOf n).bind fun tag => ?_
    split
    · rename_i v hv
      have hwait : Keeps (modify fun s : State => { s with waiting := n :: s.waiting }) :=
        .modify fun _ hs => hs
      exact (keeps_setValue (soundValue_emptyOf hv)).bind fun _ => hwait.bind fun _ => .pure _
    · refine (keeps_readAtom n).bind fun a => (keeps_setValue ?_).bind fun _ => .pure _
      rintro _ ⟨⟩

theorem keeps_visitEntries (entries : List (Nat × Nat)) (done : List (Atom × Nat)) :
    Keeps (visitEntries entries done) := by
  induction entries generalizing done with
  | nil => exact .pure _
  | cons e entries ih =>
    refine (keeps_visit e.1).bind fun v => ?_
    split
    · exact (keeps_visit e.2).discard.bind fun _ => ih _
    · exact .throw _

/-- Merging changes nodes, and no values. -/
theorem keeps_entriesOf (n : Nat) : Keeps (entriesOf n) := by
  intro s a s' hs hrun
  obtain ⟨_, _, ⟨⟩, hrun⟩ := of_run_bind hrun
  obtain ⟨⟨entries, nodes⟩, mid, hmerge, hrun⟩ := of_run_bind hrun
  obtain ⟨_, _, ⟨⟩, hrun⟩ := of_run_bind hrun
  exact keeps_visitEntries entries [] { s with nodes } a s' hs hrun

theorem keeps_itemsOf (n : Nat) : Keeps (itemsOf n) := by
  refine (keeps_contentOf n).bind fun content => ?_
  split
  · exact .pure _
  · exact .throw _

theorem keeps_visitPair (n : Nat) : Keeps (visitPair n) := by
  refine (keeps_contentOf n).bind fun content => ?_
  split
  · exact (keeps_visit _).discard.bind fun _ => (keeps_visit _).discard.bind fun _ => .pure _
  · exact .throw _

theorem keeps_fill (n : Nat) : Keeps (fill n) := by
  refine (keeps_tagOf n).bind fun tag => ?_
  split
  · exact (keeps_itemsOf n).bind fun items =>
      (Keeps.forM fun item => (keeps_visit item).discard).bind fun _ =>
        keeps_setValue fun _ h => nomatch h
  · exact (keeps_itemsOf n).bind fun items =>
      (Keeps.mapM keeps_visitPair).bind fun _ =>
        keeps_setValue fun _ h => nomatch h
  · exact (keeps_entriesOf n).bind fun _ => keeps_setValue fun _ h => nomatch h
  · refine (keeps_entriesOf n).bind_of (gives_entriesOf n) fun entries h => keeps_setValue ?_
    rintro _ ⟨⟩
    exact h
  · exact .pure _

theorem keeps_fillAll (fuel : Nat) : Keeps (fillAll fuel) := by
  induction fuel with
  | zero => exact .pure _
  | succ fuel ih =>
    refine Keeps.get.bind fun s => ?_
    have hclear : Keeps (modify fun s : State => { s with waiting := [] }) :=
      .modify fun _ hs => hs
    dsimp only
    split
    · exact .pure _
    · exact hclear.bind fun _ => (Keeps.forM keeps_fill).bind fun _ => ih

theorem keeps_build (root : Nat) : Keeps (build root) :=
  (keeps_visit root).discard.bind fun _ => Keeps.get.bind fun _ => keeps_fillAll _

end Builder

/-! ## Documents -/

theorem Builder.sound_replicate (n : Nat) : Sound (.replicate n none) := by
  intro m entries hm
  rw [Array.getElem?_replicate] at hm
  split at hm <;> cases hm

theorem sound_of_ofNodes {g : NodeGraph} {data : Data} (h : Data.ofNodes g = .ok data) :
    Builder.Sound data.values := by
  rw [Data.ofNodes] at h
  dsimp only at h
  generalize hstart : (⟨g.nodes, .replicate g.nodes.size none, [], _⟩ : Builder.State) = start at h
  cases hbuild : (Builder.build g.root).run start with
  | error e => rw [hbuild] at h; cases h
  | ok last =>
    rw [hbuild] at h
    cases h
    refine Builder.keeps_build g.root start () last.2 ?_ hbuild
    rw [← hstart]
    exact Builder.sound_replicate _

theorem sound_of_read {source : String} {data : Data} (h : Data.read source = .ok data) :
    Builder.Sound data.values := by
  rw [Data.read] at h
  cases hgraph : Node.ofScan (scan source) with
  | error e => rw [hgraph] at h; cases h
  | ok g =>
    rw [hgraph] at h
    exact sound_of_ofNodes h

/-- No key comes twice in a mapping of a document. -/
theorem distinct_of_read {source : String} {data : Data} {n : Nat} {entries : List (Atom × Value)}
    (h : Data.read source = .ok data) (hentries : data.entries? (data.value n) = some entries) :
    Distinct entries := by
  rw [Data.value] at hentries
  cases hv : data.values[n]?.join with
  | none => rw [hv] at hentries; cases hentries
  | some v =>
    rw [hv, Option.getD_some] at hentries
    cases v with
    | mapping es =>
      cases hentries
      have hes := sound_of_read h n es (Option.join_eq_some_iff.1 hv)
      exact hes.map _ fun _ _ h => h
    | _ => cases hentries

end Cnd.Yaml
