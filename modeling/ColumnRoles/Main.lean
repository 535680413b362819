import ColumnRoles.CommandLine
import Std.Time.DateTime.Timestamp

/-!
The program itself: it looks at the arguments, the files that they name, the clock and the
terminal, and prints what the command line answers.
-/
namespace ColumnRoles.Main

def errorNumber (code : UInt32) : Nat :=
  if code < 0x80000000 then code.toNat else 0x100000000 - code.toNat

def fileFault (error : IO.Error) : FileFault :=
  let other (code : UInt32) (details : String) : FileFault :=
    match errorNumber code with
    | 2 => .missing
    | 20 => .notADirectory
    | 21 => .isDirectory
    | 36 => .nameTooLong
    | number => .other s!"{details} (os error {number})"
  match error with
  | .noFileOrDirectory _ code details => other code details
  | .inappropriateType _ code details => other code details
  | .permissionDenied _ code details => other code details
  | .invalidArgument _ code details => other code details
  | .resourceExhausted _ code details => other code details
  | error => .other error.toString

def readFile (path : String) : IO (Except FileFault ByteArray) := do
  try
    return .ok (← IO.FS.readBinFile path)
  catch error =>
    return .error (fileFault error)

def readFiles (paths : List String) : IO Files := do
  let contents ← paths.mapM fun path => do return (path, ← readFile path)
  let at? (path : String) := (contents.lookup path).getD (.error .missing)
  return {
    read := at?
    exists? := fun path =>
      match at? path with
      | .error .missing | .error .notADirectory | .error .nameTooLong => false
      | _ => true }

def now : IO String := do
  let time := (← Std.Time.Timestamp.now).val
  return Timestamp.ofUnix time.second.val.toNat time.nano.val.toNat

def color : IO Bool := do
  let forced ← IO.getEnv "CLICOLOR_FORCE"
  let forbidden ← IO.getEnv "NO_COLOR"
  let usual ← IO.getEnv "CLICOLOR"
  return CommandLine.stylesWanted forced forbidden usual (← (← IO.getStdout).isTty)

end ColumnRoles.Main

open ColumnRoles in
def main (arguments : List String) : IO UInt32 := do
  let files ← Main.readFiles (CommandLine.Request.ofArguments arguments).paths
  let here : CommandLine.Surroundings := { files, now := ← Main.now, color := ← Main.color }
  match CommandLine.run here arguments with
  | .ok lines =>
    IO.print (CommandLine.printed lines)
    return 0
  | .error failure =>
    IO.eprintln s!"Error: {failure.message}"
    return UInt32.ofNat failure.exitCode
