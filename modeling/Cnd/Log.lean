import Cnd.Text.Quoted

/-!
# The log

What the program notes while it works: one event for each file it opens, each mapping and
node type it reads, and each document it finishes. Only a prefix that changes its URI is
worth a warning.
-/

namespace Cnd.Log

inductive Level where
  | debug
  | warning
deriving DecidableEq, Repr

inductive Event where
  | loading (path : String)
  | registered (key uri : String)
  | remapped (key before uri : String)
  | nodeType (name : String) (properties childNodes : Nat)
  | parsed (source : Option String) (namespaces nodeTypes : Nat)
deriving DecidableEq, Repr

def Level.label : Level → String
  | debug => "DEBUG"
  | warning => "WARNING"

namespace Event

def level : Event → Level
  | remapped .. => .warning
  | _ => .debug

/-- The name under which the event is logged. -/
def logger : Event → String
  | loading _ => "cndkit.loader"
  | _ => "cndkit.parser.cnd_parser"

/-- The event in words. A document without a name, or with an empty one, is called a
string. -/
def message : Event → String
  | loading path => s!"Loading {path}"
  | registered key uri => s!"Registered namespace {Text.quoted key} -> {Text.quoted uri}"
  | remapped key before uri =>
    let uris := s!"{Text.quoted before} to {Text.quoted uri}"
    s!"Namespace prefix {Text.quoted key} remapped from {uris}"
  | nodeType name properties childNodes =>
    s!"Parsed node type {name} ({properties} properties, {childNodes} child nodes)"
  | parsed source namespaces nodeTypes =>
    let name := source.getD ""
    let shown := if name.isEmpty then "<string>" else name
    s!"Parsed {shown}: {namespaces} namespace(s), {nodeTypes} node type(s)"

/-- The line of the log that tells of the event. -/
def line (e : Event) : String := s!"{e.level.label} {e.logger}: {e.message}"

end Event

end Cnd.Log
