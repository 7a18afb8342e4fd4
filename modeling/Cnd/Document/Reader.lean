import Cnd.Document.Grammar

/-!
# Reading a document

A document is read one declaration after the other. A mapping makes its prefix known to the
declarations behind it. When one cannot be read, the declarations before it remain: they are
what the log of a failed reading tells of.
-/

namespace Cnd.Document

/-- What was read of a document: the declarations that are complete, and what stopped the
reading if it did not reach the end. -/
structure Reading where
  declarations : List Declaration
  /-- Why there are no more of them; none at the end of the text. -/
  failure : Option Failure
deriving DecidableEq, Repr

/-- The prefixes that are known behind a declaration. -/
def knownBehind (known : List String) : Declaration → List String
  | .mapping key _ => key :: known
  | .nodeType _ => known

/-- Reads declarations up to the end of the tokens. -/
def readDeclarations (ending : Except ScanError Position) (known : List String)
    (tokens : List Token) : Reading :=
  match readDeclaration ⟨ending, known⟩ tokens with
  | .error e => ⟨[], some e⟩
  | .ok (none, _) => ⟨[], none⟩
  | .ok (some d, rest) =>
    if _h : rest.length < tokens.length then
      let more := readDeclarations ending (knownBehind known d) rest
      ⟨d :: more.declarations, more.failure⟩
    else ⟨[d], none⟩
termination_by tokens.length

/-- Reads a whole document. The names in it may use the prefixes of `namespaces` besides the
built-in ones and its own. -/
def read (namespaces : Namespaces) (source : String) : Reading :=
  let s := scan source
  readDeclarations s.ending (Namespaces.builtin.keys ++ namespaces.keys) s.tokens

end Cnd.Document
