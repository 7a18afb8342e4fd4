import Cnd.Command.Run

/-!
# The program

The files of the computer as a file system, and the command line on them.
-/

namespace Cnd

/-- The reason with a number, which may come with a minus in front. -/
def Refusal.Reason.ofCode (code : UInt32) (text : String) : Refusal.Reason :=
  let code := if code < 0x80000000 then code else 0 - code
  if code = 2 then .notFound
  else if code = 17 then .alreadyExists
  else if code = 20 then .notDirectory
  else if code = 21 then .isDirectory
  else if code = 36 then .nameTooLong
  else .other code.toNat text

def Refusal.Reason.ofError : IO.Error → Refusal.Reason
  | .alreadyExists _ code text | .invalidArgument _ code text | .permissionDenied _ code text
  | .resourceExhausted _ code text | .inappropriateType _ code text
  | .noSuchThing _ code text | .interrupted _ code text | .noFileOrDirectory _ code text
  | .otherError code text | .resourceBusy code text | .resourceVanished code text
  | .unsupportedOperation code text | .hardwareFault code text
  | .unsatisfiedConstraints code text | .illegalOperation code text
  | .protocolError code text | .timeExpired code text => .ofCode code text
  | .unexpectedEof | .userError _ => .ofCode 5 "Input/output error"

/-- An operation, or why it was refused. -/
def attemptIO {α : Type} (operation : IO α) : IO (Except Refusal.Reason α) := do
  match ← operation.toBaseIO with
  | .ok a => return .ok a
  | .error e => return .error (.ofError e)

instance : FileSystem IO where
  contentOf p := do
    if ← ((← IO.currentDir) / p.text).isDir then return .error .isDirectory
    attemptIO (IO.FS.readBinFile p.text)
  putContent p content := do
    if ← ((← IO.currentDir) / p.text).isDir then return .error .isDirectory
    attemptIO (IO.FS.writeBinFile p.text content)
  makeDirectory p := attemptIO (IO.FS.createDir p.text)
  isDirectory p := do ((← IO.currentDir) / p.text).isDir
  isPresent p := do
    match ← attemptIO ((← IO.currentDir) / p.text).metadata with
    | .ok _ => return .ok true
    | .error reason => return if reason.isAbsence then .ok false else .error reason
  currentDirectory := return .ofString (← IO.currentDir).toString

end Cnd

/-- Runs the command line and prints what comes of it. -/
def main (args : List String) : IO UInt32 := do
  let report ← (Cnd.Command.run args : IO Cnd.Command.Report)
  IO.print report.printed.out
  IO.eprint report.printed.err
  match report.ending with
  | .ok code => return code.toUInt32
  | .error crash =>
    IO.eprintln crash.message
    return 1
