import Cnd.Namespaces
import Cnd.Yaml.Builder

/-!
# Configurations

What a configuration file can set: mappings that documents may use without declaring them,
where artifacts go, and whether warnings count as failures. The file is a YAML mapping of
these three fields, all of them optional.
-/

namespace Cnd

structure Config where
  namespaces : Namespaces := .empty
  /-- The directory artifacts are written to, seen from the directory of the configuration;
  none if they are printed. -/
  outputDirectory : Option String := none
  strict : Bool := false
deriving DecidableEq

namespace Config

inductive Problem where
  | notYaml
  | notMapping
  | unknownFields (names : List String)
  | namespacesNotMapping
  | namespaceNotText (key : String)
  | colonInPrefix (key : String)
  | notText (field : String)
  | notBoolean (field : String)
deriving DecidableEq, Repr

/-- What is wrong with the configuration called `label`, in words. -/
def Problem.message (label : String) : Problem → String
  | notYaml => s!"Invalid YAML in {label}"
  | notMapping => s!"{label}: config must be a YAML mapping"
  | unknownFields names =>
    let list := ", ".intercalate names
    s!"{label}: unknown field(s): {list}"
  | namespacesNotMapping => s!"{label}: 'namespaces' must be a mapping of prefix to URI"
  | namespaceNotText key =>
    s!"{label}: namespace '{key}' must map a string prefix to a string URI"
  | colonInPrefix key => s!"{label}: namespace prefix '{key}' must not contain ':'"
  | notText field => s!"{label}: '{field}' must be a string"
  | notBoolean field => s!"{label}: '{field}' must be a boolean"

inductive Failure where
  | problem (p : Problem)
  /-- Its unknown fields have no order in which they could be listed. -/
  | incomparableFields
  | value (f : Yaml.Fault)
deriving DecidableEq, Repr

/-- The failure to read the configuration called `label`, in words. -/
def Failure.message (label : String) : Failure → String
  | problem p => p.message label
  | incomparableFields => s!"{label}: the unknown fields cannot be put into an order"
  | value f => f.message

/-! ## Fields -/

def fields : List String := ["namespaces", "output-directory", "strict"]

/-- The entries of a mapping in YAML. -/
abbrev Entries := List (Yaml.Atom × Yaml.Value)

/-- Is the key the name of a field? -/
def isField : Yaml.Atom → Bool
  | .string s => fields.contains s
  | _ => false

def field? (name : String) (entries : Entries) : Option Yaml.Value :=
  (entries.find? fun e => match e.1 with | .string s => s = name | _ => false).map (·.2)

/-- Are any two of the keys comparable? -/
def comparable (keys : List Yaml.Atom) : Bool :=
  keys.length ≤ 1 || keys.all fun a => keys.all fun b => (a.compare? b).isSome

def showKey (key : Yaml.Atom) : Except Failure String :=
  key.shown.mapError fun e => .value (.tooLong e)

/-- There are no fields but the known ones. -/
def checkFields (entries : Entries) : Except Failure Unit :=
  let unknown := (entries.map (·.1)).filter fun k => !isField k
  if unknown.isEmpty then .ok ()
  else if !comparable unknown then .error .incomparableFields
  else do
    let sorted := unknown.mergeSort fun a b => (a.compare? b).getD .eq != .gt
    throw (.problem (.unknownFields (← sorted.mapM showKey)))

/-- One mapping of a prefix to a URI. -/
def readNamespace : Yaml.Atom × Yaml.Value → Except Failure (String × String)
  | (.string key, .atom (.string uri)) =>
    if key.toList.contains ':' then .error (.problem (.colonInPrefix key)) else .ok (key, uri)
  | (key, _) => do throw (.problem (.namespaceNotText (← showKey key)))

def readNamespaces (data : Yaml.Data) : Option Yaml.Value → Except Failure Namespaces
  | none | some (.atom .null) => .ok .empty
  | some v =>
    match data.entries? v with
    | some entries => (entries.mapM readNamespace).map .ofList
    | none => .error (.problem .namespacesNotMapping)

/-- A field that is a text, or nothing. -/
def readText (name : String) : Option Yaml.Value → Except Failure (Option String)
  | none | some (.atom .null) => .ok none
  | some (.atom (.string s)) => .ok (some s)
  | some _ => .error (.problem (.notText name))

/-- A field that is a truth value, false if it is not there. -/
def readBoolean (name : String) : Option Yaml.Value → Except Failure Bool
  | none => .ok false
  | some (.atom (.bool b)) => .ok b
  | some _ => .error (.problem (.notBoolean name))

/-! ## Configurations -/

def ofEntries (data : Yaml.Data) (entries : Entries) : Except Failure Config := do
  checkFields entries
  return {
    namespaces := ← readNamespaces data (field? "namespaces" entries)
    outputDirectory := ← readText "output-directory" (field? "output-directory" entries)
    strict := ← readBoolean "strict" (field? "strict" entries) }

/-- The configuration that a YAML document stands for. Nothing stands for the default one. -/
def ofYaml (data : Yaml.Data) : Except Failure Config :=
  match data.rootValue with
  | .atom .null => .ok {}
  | v =>
    match data.entries? v with
    | some entries => ofEntries data entries
    | none => .error (.problem .notMapping)

/-- The configuration of the text of a file. -/
def read (text : String) : Except Failure Config :=
  match Yaml.Data.read text with
  | .ok data => ofYaml data
  | .error .malformed => .error (.problem .notYaml)
  | .error f => .error (.value f)

end Config

end Cnd
