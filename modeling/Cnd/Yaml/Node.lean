import Cnd.Yaml.Tag
import Cnd.Yaml.Token

/-!
# YAML nodes

The nodes of a YAML document: scalars, sequences and mappings, each with its tag. An alias
stands for the node of its anchor. So a node may be part of several others, and even of itself,
and the nodes refer to their parts by numbers.

Tokens are only looked at as they are needed. What is wrong behind them counts where a token is
wanted that is not there.

The grammar takes at least one token for every node it goes down to, save for missing ones,
so twice the number of tokens bounds the nesting; it is handed down as fuel.
-/

namespace Cnd.Yaml

inductive Content where
  | scalar (text : String)
  | sequence (items : List Nat)
  | mapping (entries : List (Nat × Nat))
deriving DecidableEq, Repr

structure Node where
  tag : Tag
  content : Content
deriving DecidableEq, Repr

structure NodeGraph where
  nodes : Array Node
  /-- The number of the node that is the whole document. -/
  root : Nat

namespace Node

def missing : Node := ⟨.null, .scalar ""⟩

/-- What is known while a document is read. -/
structure State where
  tokens : List Token
  fault : Option Fault
  anchors : List (String × Nat)
  handles : List (String × String)
  nodes : Array Node

abbrev Rule (α : Type) := StateT State (Except Fault) α

def fail {α : Type} : Rule α := throw .malformed

/-- The next token; none at the end of the text. -/
def peek? : Rule (Option Token) := do
  let s ← get
  match s.tokens, s.fault with
  | t :: _, _ => return some t
  | [], some f => throw f
  | [], none => return none

def drop : Rule Unit := modify fun s => { s with tokens := s.tokens.drop 1 }

/-- Takes the next token if it is the given one. -/
def accept (t : Token) : Rule Bool := do
  if (← peek?) = some t then
    drop
    return true
  return false

/-- Is the next token one of these? -/
def isAt (ts : List Token) : Rule Bool := do
  return ((← peek?).map ts.contains).getD false

/-! ## Nodes and their names -/

/-- Adds a node, and gives its number. -/
def add (n : Node) : Rule Nat := do
  let number := (← get).nodes.size
  modify fun s => { s with nodes := s.nodes.push n }
  return number

def addMissing : Rule Nat := add missing

def bind (anchor : Option String) (number : Nat) : Rule Unit := do
  if let some name := anchor then
    modify fun s => { s with anchors := (name, number) :: s.anchors }

def addScalar (anchor : Option String) (tag : Tag) (text : String) : Rule Nat := do
  let number ← add ⟨tag, .scalar text⟩
  bind anchor number
  return number

/-- Adds a collection. Its name is known inside of it. -/
def addCollection (anchor : Option String) (tag : Tag) (read : Rule Content) : Rule Nat := do
  let number ← add ⟨tag, .scalar ""⟩
  bind anchor number
  let content ← read
  modify fun s => { s with nodes := s.nodes.modify number fun n => { n with content } }
  return number

/-! ## Anchors and tags -/

/-- What may stand in front of a node. -/
structure Properties where
  anchor : Option String
  tag : Option (Option String × String)

def acceptAnchor : Rule (Option String) := do
  match ← peek? with
  | some (.anchor name) =>
    drop
    return some name
  | _ => return none

def acceptTag : Rule (Option (Option String × String)) := do
  match ← peek? with
  | some (.tag handle suffix) =>
    drop
    return some (handle, suffix)
  | _ => return none

/-- Takes an anchor and a tag, in either order, as far as they are there. -/
def readProperties : Rule Properties := do
  match ← acceptAnchor with
  | some anchor => return ⟨some anchor, ← acceptTag⟩
  | none =>
    match ← acceptTag with
    | some tag => return ⟨← acceptAnchor, some tag⟩
    | none => return ⟨none, none⟩

def resolveTag (tag : Option String × String) : Rule String := do
  match tag with
  | (none, suffix) => return suffix
  | (some handle, suffix) =>
    match (← get).handles.lookup handle with
    | some expansion => return expansion ++ suffix
    | none => fail

/-! ## Sequences and mappings -/

/-- Adds a sequence whose items are read by `read`. -/
def addSequence (anchor uri : Option String) (read : Rule (List Nat)) : Rule Nat :=
  addCollection anchor (.ofCollection .sequence uri) do return .sequence (← read)

/-- Adds a mapping whose entries are read by `read`. -/
def addMapping (anchor uri : Option String) (read : Rule (List (Nat × Nat))) : Rule Nat :=
  addCollection anchor (.ofCollection .mapping uri) do return .mapping (← read)

/-- Adds a node of which there are only an anchor or a tag. -/
def addBare (anchor uri : Option String) : Rule Nat :=
  if anchor.isNone ∧ uri.isNone then fail else addScalar anchor (.ofScalar "" true uri) ""

mutual

/-- Reads a node. Outside brackets it may be a block collection, and behind a key also a
sequence that is not indented. -/
def readNode (fuel : Nat) (block indentless : Bool) : Rule Nat := do
  match fuel with
  | 0 => fail
  | fuel + 1 =>
    if let some (.alias name) ← peek? then
      drop
      match (← get).anchors.lookup name with
      | some number => return number
      | none => fail
    else
      let ⟨anchor, tag⟩ ← readProperties
      let uri ← tag.mapM resolveTag
      let next ← peek?
      if let some name := anchor then
        if ((← get).anchors.lookup name).isSome then fail
      match next with
      | some .blockEntry =>
        if indentless then addSequence anchor uri (readIndentless fuel) else addBare anchor uri
      | some (.scalar text isPlain) =>
        drop
        addScalar anchor (.ofScalar text isPlain uri) text
      | some .flowSequenceStart =>
        drop
        addSequence anchor uri (readFlowItems fuel true)
      | some .flowMappingStart =>
        drop
        addMapping anchor uri (readFlowEntries fuel true)
      | some .blockSequenceStart =>
        if block then
          drop
          addSequence anchor uri (readBlockItems fuel)
        else addBare anchor uri
      | some .blockMappingStart =>
        if block then
          drop
          addMapping anchor uri (readBlockEntries fuel)
        else addBare anchor uri
      | _ => addBare anchor uri

/-- Reads a node, or a missing one in front of the given tokens. -/
def readUnless (fuel : Nat) (ends : List Token) (block indentless : Bool) : Rule Nat := do
  match fuel with
  | 0 => fail
  | fuel + 1 => if ← isAt ends then addMissing else readNode fuel block indentless

/-- Reads the items of a block sequence up to its end. -/
def readBlockItems (fuel : Nat) : Rule (List Nat) := do
  match fuel with
  | 0 => fail
  | fuel + 1 =>
    if ← accept .blockEntry then
      let n ← readUnless fuel [.blockEntry, .blockEnd] true false
      return n :: (← readBlockItems fuel)
    if ← accept .blockEnd then return [] else fail

/-- Reads the items of a sequence that is not indented. -/
def readIndentless (fuel : Nat) : Rule (List Nat) := do
  match fuel with
  | 0 => fail
  | fuel + 1 =>
    if ← accept .blockEntry then
      let n ← readUnless fuel [.blockEntry, .key, .value, .blockEnd] true false
      return n :: (← readIndentless fuel)
    return []

/-- Reads the entries of a block mapping up to its end. -/
def readBlockEntries (fuel : Nat) : Rule (List (Nat × Nat)) := do
  match fuel with
  | 0 => fail
  | fuel + 1 =>
    let ends : List Token := [.key, .value, .blockEnd]
    if ← accept .key then
      let k ← readUnless fuel ends true true
      let v ← if ← accept .value then readUnless fuel ends true true else addMissing
      return (k, v) :: (← readBlockEntries fuel)
    if ← accept .blockEnd then return [] else fail

/-- Reads the items of a sequence in brackets; `first` tells that no comma must come before
the next one. An item may be a single entry of a mapping. -/
def readFlowItems (fuel : Nat) (first : Bool) : Rule (List Nat) := do
  match fuel with
  | 0 => fail
  | fuel + 1 =>
    if ← accept .flowSequenceEnd then return []
    if !first then
      if !(← accept .flowEntry) then fail
    if ← accept .key then
      let n ← addMapping none none do
        let k ← readUnless fuel [.value, .flowEntry, .flowSequenceEnd] false false
        let v ←
          if ← accept .value then readUnless fuel [.flowEntry, .flowSequenceEnd] false false
          else addMissing
        return [(k, v)]
      return n :: (← readFlowItems fuel false)
    if ← accept .flowSequenceEnd then return []
    let n ← readNode fuel false false
    return n :: (← readFlowItems fuel false)

/-- Reads the entries of a mapping in braces; `first` tells that no comma must come before
the next one. -/
def readFlowEntries (fuel : Nat) (first : Bool) : Rule (List (Nat × Nat)) := do
  match fuel with
  | 0 => fail
  | fuel + 1 =>
    if ← accept .flowMappingEnd then return []
    if !first then
      if !(← accept .flowEntry) then fail
    if ← accept .key then
      let k ← readUnless fuel [.value, .flowEntry, .flowMappingEnd] false false
      let v ←
        if ← accept .value then readUnless fuel [.flowEntry, .flowMappingEnd] false false
        else addMissing
      return (k, v) :: (← readFlowEntries fuel false)
    if ← accept .flowMappingEnd then return []
    let k ← readNode fuel false false
    let v ← addMissing
    return (k, v) :: (← readFlowEntries fuel false)

end

/-! ## Documents -/

def defaultHandles : List (String × String) := [("!", "!"), ("!!", "tag:yaml.org,2002:")]

/-- Reads the directives in front of a document: at most one version, which must be the
first, and no handle twice. -/
def readDirectives : Nat → Bool → List (String × String) → Rule Unit
  | 0, _, _ => fail
  | fuel + 1, versioned, handles => do
    match ← peek? with
    | some (.version major) =>
      drop
      if versioned ∨ major ≠ 1 then fail
      readDirectives fuel true handles
    | some (.handle name expansion) =>
      drop
      if (handles.lookup name).isSome then fail
      readDirectives fuel versioned ((name, expansion) :: handles)
    | some .directive =>
      drop
      readDirectives fuel versioned handles
    | _ => modify fun s => { s with handles := handles ++ defaultHandles }

/-- Does the next token begin a document that is marked as one? -/
def atMarkedDocument : Rule Bool := do
  match ← peek? with
  | some (.version _) | some (.handle ..) | some .directive | some .documentStart => return true
  | _ => return false

/-- Reads the only document there is. An empty text counts as a missing node. -/
def readDocument (fuel : Nat) : Rule Nat := do
  if (← peek?).isNone then return ← addMissing
  let number ←
    if ← atMarkedDocument then do
      readDirectives fuel false []
      if !(← accept .documentStart) then fail
      let isEmpty := (← peek?).isNone || (← isAt [.documentEnd]) || (← atMarkedDocument)
      if isEmpty then addMissing else readNode fuel true false
    else readNode fuel true false
  modify fun s => { s with tokens := s.tokens.dropWhile (· = .documentEnd) }
  if (← peek?).isNone then return number
  readDirectives fuel false []
  fail

def ofScan (s : Scan) : Except Fault NodeGraph := do
  let fuel := 2 * s.tokens.length + 2
  let (root, last) ← (readDocument fuel).run ⟨s.tokens, s.fault, [], defaultHandles, #[]⟩
  return ⟨last.nodes, root⟩

end Node

end Cnd.Yaml
