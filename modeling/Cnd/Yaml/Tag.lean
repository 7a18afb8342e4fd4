import Cnd.Yaml.Number
import Cnd.Yaml.Timestamp

/-!
# YAML tags

The tag of a node says what sort of value the node stands for. A tag may be given in the
document. Otherwise the form of a node decides, and the form of a plain scalar is its text.
-/

namespace Cnd.Yaml

/-- What sort of value a node stands for. -/
inductive Tag where
  | null
  | bool
  | int
  | float
  | binary
  | timestamp
  | string
  | sequence
  | pairs
  | set
  | mapping
  | merge
  /-- The key of what a mapping stands for where a scalar is wanted. -/
  | value
  | unknown
deriving DecidableEq, Repr

/-- The characters without one line feed at their end. -/
def dropFinalLineFeed (cs : List Char) : List Char :=
  if cs.getLast? = some '\n' then cs.dropLast else cs

namespace Tag

/-- The tags of the types that every document can use. -/
def ofUri (uri : String) : Tag :=
  match uri with
  | "tag:yaml.org,2002:null" => null
  | "tag:yaml.org,2002:bool" => bool
  | "tag:yaml.org,2002:int" => int
  | "tag:yaml.org,2002:float" => float
  | "tag:yaml.org,2002:binary" => binary
  | "tag:yaml.org,2002:timestamp" => timestamp
  | "tag:yaml.org,2002:str" => string
  | "tag:yaml.org,2002:seq" => sequence
  | "tag:yaml.org,2002:omap" => pairs
  | "tag:yaml.org,2002:pairs" => pairs
  | "tag:yaml.org,2002:set" => set
  | "tag:yaml.org,2002:map" => mapping
  | "tag:yaml.org,2002:merge" => merge
  | "tag:yaml.org,2002:value" => value
  | _ => unknown

def nullWords : List String := ["~", "null", "Null", "NULL"]

def trueWords : List String :=
  ["yes", "Yes", "YES", "true", "True", "TRUE", "on", "On", "ON"]

def falseWords : List String :=
  ["no", "No", "NO", "false", "False", "FALSE", "off", "Off", "OFF"]

/-- The tag of a word: one that stands for a value, or one that has a meaning in YAML itself. -/
def ofWord? (word : String) : Option Tag :=
  if word ∈ nullWords then some null
  else if word ∈ trueWords ∨ word ∈ falseWords then some bool
  else if word = "<<" then some merge
  else if word = "=" then some value
  else if word ∈ ["!", "&", "*"] then some unknown
  else none

/-- The tag of a scalar whose text decides. One line feed at its end does not count, but a text
that is nothing else is a text. -/
def ofText (text : String) : Tag :=
  if text = "" then null
  else
    let cs := dropFinalLineFeed text.toList
    match ofWord? (String.ofList cs) with
    | some tag => tag
    | none =>
      if Number.isFloat cs then float
      else if Number.isInt cs then int
      else if Timestamp.isWritten cs then timestamp
      else string

/-- The tag of a scalar: the text of a plain one decides unless there is a tag, and a lone
`!` lets the text of any scalar decide. -/
def ofScalar (text : String) (isPlain : Bool) : Option String → Tag
  | none => if isPlain then ofText text else string
  | some "!" => ofText text
  | some uri => ofUri uri

def ofCollection (default : Tag) : Option String → Tag
  | none => default
  | some "!" => default
  | some uri => ofUri uri

end Tag

end Cnd.Yaml
