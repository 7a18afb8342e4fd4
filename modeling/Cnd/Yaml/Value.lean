import Cnd.Yaml.Atom

/-!
# YAML values

What a YAML document stands for: atoms, sequences, sequences of pairs, sets of atoms, and
mappings whose keys are atoms. The values of a document refer to their parts by numbers, as a
value may be part of itself.
-/

namespace Cnd.Yaml

/-- A value; its parts are values of the same document. -/
inductive Value where
  | atom (a : Atom)
  | sequence (items : List Nat)
  | pairs (entries : List (Nat × Nat))
  | set (keys : List Atom)
  | mapping (entries : List (Atom × Nat))

structure Data where
  values : Array (Option Value)
  root : Nat

namespace Data

/-- The value of a number. A number without one stands for nothing. -/
def value (d : Data) (n : Nat) : Value := d.values[n]?.join.getD (.atom .null)

def rootValue (d : Data) : Value := d.value d.root

def entries? (d : Data) : Value → Option (List (Atom × Value))
  | .mapping entries => some (entries.map fun e => (e.1, d.value e.2))
  | _ => none

end Data

end Cnd.Yaml
