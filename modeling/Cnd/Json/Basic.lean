/-!
# JSON values

A JSON value, with its integers apart from its floating-point numbers and the members of an
object in order. An object has at most one member of a name: one that is given again keeps
its place and takes the later value (`Json.insert`).
-/

namespace Cnd

inductive Json where
  | null
  | bool (b : Bool)
  | int (n : Int)
  | float (x : Float)
  | string (s : String)
  | array (items : List Json)
  | object (members : List (String × Json))
deriving Inhabited

namespace Json

/-- Sets a member: in its place if it is there, otherwise at the end. -/
def insert {α : Type} (key : String) (value : α) : List (String × α) → List (String × α)
  | [] => [(key, value)]
  | (k, v) :: rest => if k = key then (k, value) :: rest else (k, v) :: insert key value rest

def distinct {α : Type} (members : List (String × α)) : List (String × α) :=
  members.foldl (fun done m => insert m.1 m.2 done) []

def member? {α : Type} (key : String) (members : List (String × α)) : Option α :=
  members.lookup key

end Json

end Cnd
