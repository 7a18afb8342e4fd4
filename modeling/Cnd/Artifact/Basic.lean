import Cnd.Artifact.Decoder
import Cnd.Artifact.Encoder
import Cnd.Json.Printer
import Cnd.Json.Reader
import Cnd.Json.Shown

/-!
# Artifacts

A schema as a JSON text, for programs that do not read definition documents. An artifact is
the object of the schema, led by the version of the format. Reading checks the version before
anything else in the object.
-/

namespace Cnd.Artifact

def version : String := "1"

def encode (s : Schema) : Json :=
  .object
    [("v", .string version),
      ("namespaces", encodeNamespaces s.namespaces),
      ("node_types", .array (s.nodeTypes.map encodeNodeType))]

/-- The text of an artifact, compact or indented by so many spaces a level. -/
def serialize (indent : Option Nat) (s : Schema) : String := (encode s).render indent

/-- Why a text is not an artifact. -/
inductive Failure where
  | json (e : Json.SyntaxError)
  | number (e : Decimal.TooLong)
  | notObject
  | version (found : Json)
  | content (issues : List Issue)

def Failure.message : Failure → String
  | json e => s!"Invalid artifact JSON: {e.message}"
  | number e => e.message
  | notObject => "Artifact must be a JSON object"
  | version found => s!"Unsupported artifact format version: {found.shown}"
  | content _ => "Invalid artifact content"

/-- The schema of a JSON value that stands for an artifact. -/
def decode : Json → Except Failure Schema
  | .object fields =>
    match Json.member? "v" fields with
    | some (.string v) =>
      if v = version then
        match decodeSchema fields with
        | .ok s => .ok s
        | .bad issues => .error (.content issues)
      else .error (.version (.string v))
    | found => .error (.version (found.getD .null))
  | _ => .error .notObject

/-- The schema of the text of an artifact. -/
def deserialize (text : String) : Except Failure Schema :=
  match Json.read text with
  | .ok v => decode v
  | .error (.grammar e) => .error (.json e)
  | .error (.number e) => .error (.number e)

end Cnd.Artifact
