import Cnd.File.System
import Cnd.Text.LineEnd
import Cnd.Text.Utf8

/-!
# Reading texts from files

The text of a file is what its bytes stand for in UTF-8, with a line feed for every line end.
-/

namespace Cnd

inductive ReadError where
  | file (e : FileError)
  | encoding (f : Text.Utf8.Fault)
deriving DecidableEq, Repr

def ReadError.message : ReadError → String
  | file e => e.message
  | encoding f => f.message

/-- The text that the bytes of a file stand for. -/
def textOfBytes (bytes : ByteArray) : Except Text.Utf8.Fault String :=
  (Text.Utf8.decode bytes).map Text.feedLines

/-- A text without carriage returns is read as it was written. -/
theorem textOfBytes_toUTF8 {s : String} (h : '\r' ∉ s.toList) : textOfBytes s.toUTF8 = .ok s := by
  simp only [textOfBytes, Text.Utf8.decode_toUTF8, Except.map, Text.feedLines_of_not_mem h]

namespace FileSystem

variable {m : Type → Type} [Monad m] [FileSystem m]

def readText (p : Path) : m (Except ReadError String) := do
  match ← readBytes p with
  | .ok bytes => return (textOfBytes bytes).mapError .encoding
  | .error e => return .error (.file e)

end FileSystem

end Cnd
