import Cnd.Decimal.Layout
import Cnd.Json.Basic
import Cnd.Text.Quoted

/-!
# JSON values in messages

How a message shows a JSON value it rejects: strings quoted as other texts are, numbers with
the fewest digits, and the three words `None`, `True` and `False`.
-/

namespace Cnd.Json

mutual

/-- The value as a message shows it. -/
def shown : Json → String
  | null => "None"
  | bool true => "True"
  | bool false => "False"
  | int n => toString n
  | float x => Decimal.inMessages.render x
  | string s => Text.quoted s
  | array items => "[" ++ ", ".intercalate (shownItems items) ++ "]"
  | object members => "\x7b" ++ ", ".intercalate (shownMembers members) ++ "\x7d"

/-- The items of an array, each as a message shows it. -/
def shownItems : List Json → List String
  | [] => []
  | v :: rest => shown v :: shownItems rest

/-- The members of an object, each as a message shows it. -/
def shownMembers : List (String × Json) → List String
  | [] => []
  | (k, v) :: rest => (Text.quoted k ++ ": " ++ shown v) :: shownMembers rest

end

end Cnd.Json
