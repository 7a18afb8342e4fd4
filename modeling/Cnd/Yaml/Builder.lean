import Cnd.Yaml.Merge
import Cnd.Yaml.Value

/-!
# Building values

The values that the nodes of a YAML document stand for. A scalar is read where it is met. A
collection first gets its place, and is filled when all that is nearer to the root has been,
so of several faults the one that is nearest to the root comes first, and on one level the one
that is written first.

A collection is filled once, and every round fills one at least, so the number of nodes bounds
the rounds.
-/

namespace Cnd.Yaml

namespace Builder

structure State where
  /-- The nodes. Those of mappings change when entries are merged into them. -/
  nodes : Array Node
  /-- The values so far; a collection that is not filled yet is empty. -/
  values : Array (Option Value)
  /-- The collections to be filled in the next round, the last one first. -/
  waiting : List Nat
  mergeFuel : Nat

abbrev Rule (α : Type) := StateT State (Except Fault) α

def fail {α : Type} : Rule α := throw .malformed

def setValue (n : Nat) (v : Value) : Rule Unit :=
  modify fun s => { s with values := s.values.setIfInBounds n (some v) }

def tagOf (n : Nat) : Rule Tag := return Merge.tag (← get).nodes n

def contentOf (n : Nat) : Rule Content := do
  match Merge.content? (← get).nodes n with
  | some content => return content
  | none => fail

/-! ## Scalars -/

/-- The text of a node where a scalar is wanted. A mapping may give it under the key `=`. -/
def textOf (nodes : Array Node) : Nat → Nat → Except Fault String
  | 0, _ => .error .malformed
  | fuel + 1, n =>
    match Merge.content? nodes n with
    | some (.scalar text) => .ok text
    | some (.mapping entries) =>
      match entries.find? fun e => Merge.tag nodes e.1 = .value with
      | some e => textOf nodes fuel e.2
      | none => .error .malformed
    | _ => .error .malformed

/-- The atom that a node stands for. The text of a timestamp must be its own. -/
def readAtom (n : Nat) : Rule Atom := do
  let nodes := (← get).nodes
  let text ← textOf nodes (nodes.size + 1) n
  let tag ← tagOf n
  if tag = .timestamp ∧ (Merge.entries? nodes n).isSome then throw .timestampNotText
  Atom.read tag text

/-! ## Collections -/

def emptyOf? : Tag → Option Value
  | .sequence => some (.sequence [])
  | .pairs => some (.pairs [])
  | .set => some (.set [])
  | .mapping => some (.mapping [])
  | _ => none

/-- Sees to it that a node gets a value, and gives the value as far as it is built. -/
def visit (n : Nat) : Rule Value := do
  if let some v := (← get).values[n]?.join then return v
  match emptyOf? (← tagOf n) with
  | some v =>
    setValue n v
    modify fun s => { s with waiting := n :: s.waiting }
    return v
  | none =>
    let v := Value.atom (← readAtom n)
    setValue n v
    return v

/-- Sets the value of a key: in its place if the key is there, otherwise at the end. -/
def insert (key : Atom) (n : Nat) : List (Atom × Nat) → List (Atom × Nat)
  | [] => [(key, n)]
  | (k, m) :: rest => if k.same key then (k, n) :: rest else (k, m) :: insert key n rest

/-- Visits the entries of a mapping, and puts them behind those before them. A collection is no
key. -/
def visitEntries : List (Nat × Nat) → List (Atom × Nat) → Rule (List (Atom × Nat))
  | [], done => return done
  | (k, n) :: rest, done => do
    match ← visit k with
    | .atom key =>
      discard <| visit n
      visitEntries rest (insert key n done)
    | _ => fail

/-- The entries of a mapping, with those that are merged into it. -/
def entriesOf (n : Nat) : Rule (List (Atom × Nat)) := do
  let s ← get
  let (entries, nodes) ← (do Merge.flatten s.mergeFuel n; Merge.entriesOf n).run s.nodes
  set { s with nodes }
  visitEntries entries []

def itemsOf (n : Nat) : Rule (List Nat) := do
  match ← contentOf n with
  | .sequence items => return items
  | _ => fail

def visitPair (n : Nat) : Rule (Nat × Nat) := do
  match ← contentOf n with
  | .mapping [(k, v)] =>
    discard <| visit k
    discard <| visit v
    return (k, v)
  | _ => fail

def fill (n : Nat) : Rule Unit := do
  match ← tagOf n with
  | .sequence =>
    let items ← itemsOf n
    items.forM fun item => discard <| visit item
    setValue n (.sequence items)
  | .pairs => setValue n (.pairs (← (← itemsOf n).mapM visitPair))
  | .set => setValue n (.set ((← entriesOf n).map (·.1)))
  | .mapping => setValue n (.mapping (← entriesOf n))
  | _ => return

/-- Fills the collections that wait, and those that are met in doing so. -/
def fillAll : Nat → Rule Unit
  | 0 => return
  | fuel + 1 => do
    let waiting := (← get).waiting.reverse
    if waiting.isEmpty then return
    modify fun s => { s with waiting := [] }
    waiting.forM fill
    fillAll fuel

def build (root : Nat) : Rule Unit := do
  discard <| visit root
  fillAll ((← get).nodes.size + 1)

end Builder

namespace Data

def ofNodes (g : NodeGraph) : Except Fault Data := do
  let start : Builder.State :=
    ⟨g.nodes, .replicate g.nodes.size none, [], 3 * Merge.countEntries g.nodes + 3⟩
  let ((), last) ← (Builder.build g.root).run start
  return ⟨last.values, g.root⟩

/-- The values of the document that a text is. -/
def read (source : String) : Except Fault Data := do
  ofNodes (← Node.ofScan (scan source))

end Data

end Cnd.Yaml
