import Emend.Command.Basic

/-! # The program

Answers the command line with the files of the system.
-/

namespace Emend

/-- Why the system could not do something to a file. -/
def FileError.ofSystem (e : IO.Error) : FileError :=
  match e with
  | .noFileOrDirectory .. => .notFound
  | .permissionDenied .. => .permissionDenied
  | .invalidArgument _ 36 _ => .nameTooLong
  | .inappropriateType _ code _ => if code = 21 then .isDirectory else .notDirectory
  | e => .other (toString e)

def attempt {α : Type} (action : IO α) : IO (Except FileError α) := do
  match ← action.toBaseIO with
  | .ok value => return .ok value
  | .error e => return .error (FileError.ofSystem e)

instance : Files IO where
  read path := attempt (IO.FS.readBinFile path)
  write path bytes := attempt (IO.FS.writeBinFile path bytes)
  copy source destination := do
    match ← attempt (IO.FS.readBinFile source) with
    | .error .isDirectory => return .error .notRegular
    | .error e => return .error e
    | .ok bytes => attempt (IO.FS.writeBinFile destination bytes)

/-- Whether texts are shown in styles: what the environment says, else on a terminal. -/
def wantsColor : IO Bool := do
  match ← IO.getEnv "CLICOLOR_FORCE" with
  | some "0" => pure ()
  | some _ => return true
  | none => pure ()
  if (← IO.getEnv "NO_COLOR").isSome || (← IO.getEnv "CLICOLOR") == some "0" then
    return false
  (← IO.getStdout).isTty

end Emend

def main (words : List String) : IO UInt32 := do
  let color ← Emend.wantsColor
  let response ← (Emend.Command.respond color words : IO Emend.Command.Response)
  IO.print response.out
  IO.eprint response.err
  return response.status.toUInt32
