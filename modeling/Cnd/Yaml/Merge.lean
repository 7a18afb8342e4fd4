import Cnd.Yaml.Node

/-!
# Merging

An entry of a mapping whose key is `<<` stands for the entries of other mappings, which come in
front of the mapping's own. A mapping that is merged is itself freed of such entries first.
As mappings can be merged into themselves, each of these entries is taken out of its mapping
before it is followed. So each is followed once, and their number bounds the nesting.
-/

namespace Cnd.Yaml.Merge

abbrev Change (α : Type) := StateT (Array Node) (Except Fault) α

def tag (nodes : Array Node) (n : Nat) : Tag := (nodes[n]?.map (·.tag)).getD .unknown

def content? (nodes : Array Node) (n : Nat) : Option Content := nodes[n]?.map (·.content)

/-- The entries of a node, if it is a mapping. -/
def entries? (nodes : Array Node) (n : Nat) : Option (List (Nat × Nat)) :=
  match content? nodes n with
  | some (.mapping entries) => some entries
  | _ => none

/-- The entries of a node, which must be a mapping. -/
def entriesOf (n : Nat) : Change (List (Nat × Nat)) := do
  match entries? (← get) n with
  | some entries => return entries
  | none => throw .malformed

def setEntries (n : Nat) (entries : List (Nat × Nat)) : Change Unit :=
  modify fun nodes => nodes.modify n fun node => { node with content := .mapping entries }

/-- Takes the first entry to merge out of a mapping, and gives its value. -/
def takeMerge? (n : Nat) : Change (Option Nat) := do
  let nodes ← get
  let isMerge (e : Nat × Nat) : Bool := tag nodes e.1 = .merge
  let entries ← entriesOf n
  match entries.find? isMerge with
  | none => return none
  | some e =>
    setEntries n (entries.eraseP isMerge)
    return some e.2

/-- A key `=` of a mapping means nothing there but its text. -/
def plainKeys (n : Nat) : Change Unit := do
  (← entriesOf n).forM fun e =>
    modify fun nodes =>
      if tag nodes e.1 = .value then nodes.modify e.1 fun k => { k with tag := .string } else nodes

mutual

/-- Puts the entries to merge in front of the other entries of a mapping. -/
def flatten (fuel n : Nat) : Change Unit := do
  match fuel with
  | 0 => throw .malformed
  | fuel + 1 =>
    let merged ← gather fuel n
    plainKeys n
    setEntries n (merged ++ (← entriesOf n))

/-- Takes the entries to merge out of a mapping, and gives what they stand for. -/
def gather (fuel n : Nat) : Change (List (Nat × Nat)) := do
  match fuel with
  | 0 => throw .malformed
  | fuel + 1 =>
    match ← takeMerge? n with
    | none => return []
    | some source =>
      let part ← entriesFrom fuel source
      return part ++ (← gather fuel n)

/-- The entries of a mapping, or of each mapping of a sequence, where those of the earlier ones
come later and so prevail. -/
def entriesFrom (fuel n : Nat) : Change (List (Nat × Nat)) := do
  match fuel with
  | 0 => throw .malformed
  | fuel + 1 =>
    match content? (← get) n with
    | some (.sequence items) =>
      let parts ← items.mapM fun item => do
        discard <| entriesOf item
        flatten fuel item
        entriesOf item
      return parts.reverse.flatten
    | _ =>
      discard <| entriesOf n
      flatten fuel n
      entriesOf n

end

/-- How many entries the mappings of a document have. -/
def countEntries (nodes : Array Node) : Nat :=
  nodes.foldl (fun count node =>
    match node.content with
    | .mapping entries => count + entries.length
    | _ => count) 0

end Cnd.Yaml.Merge
