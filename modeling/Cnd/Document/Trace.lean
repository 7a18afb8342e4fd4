import Cnd.Document.Meaning
import Cnd.Log

/-!
# The trace of a reading

The log of a reading follows from what was read: one event for each complete declaration, in
order, and one more when the end was reached. Whether a mapping changes its prefix is seen in
the mappings that hold in front of it.
-/

namespace Cnd.Document

/-- The event of a declaration, where `known` are the mappings in force. -/
def Declaration.event (known : Namespaces) : Declaration → Log.Event
  | mapping key uri =>
    match known.find? key with
    | some before => if before = uri then .registered key uri else .remapped key before uri
    | none => .registered key uri
  | nodeType d =>
    let t := d.toNodeType
    .nodeType t.name t.properties.length t.childNodes.length

/-- The mappings in force behind a declaration. -/
def Declaration.extend (known : Namespaces) : Declaration → Namespaces
  | mapping key uri => known.insert key uri
  | nodeType _ => known

def events (known : Namespaces) : List Declaration → List Log.Event
  | [] => []
  | d :: ds => d.event known :: events (d.extend known) ds

/-- The event that ends the reading of a whole document. -/
def finished (source : Option String) (s : Schema) : Log.Event :=
  .parsed source s.namespaces.size s.nodeTypes.length

/-- The log of a reading that began with the mappings `namespaces` besides the built-in
ones. -/
def Reading.log (source : Option String) (namespaces : Namespaces) (r : Reading) :
    List Log.Event :=
  events (Namespaces.builtin.update namespaces) r.declarations ++
    match r.schema with
    | .ok s => [finished source s]
    | .error _ => []

end Cnd.Document
