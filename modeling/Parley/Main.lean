import Parley.CommandLine.Run

/-!
# The program

Reads the scripts that the arguments name and the standard input if it is needed, and prints what
the run leaves behind.
-/
namespace Parley.CommandLine

/-- A failure that the operating system knows by a number, which may be negated. -/
def Unreadable.ofCode (number : UInt32) (details : String) : Unreadable :=
  let code := if 0x80000000 ≤ number then 0 - number else number
  if code = 20 then .notDirectory
  else if code = 21 then .isDirectory
  else if code = 36 then .nameTooLong
  else .other (details ++ " (os error " ++ toString code ++ ")")

/-- The reason behind a failure to read a file. -/
def Unreadable.ofError : IO.Error → Unreadable
  | .noFileOrDirectory _ _ _ => .missing
  | .inappropriateType _ code details => .ofCode code details
  | .permissionDenied _ code details => .ofCode code details
  | .resourceExhausted _ code details => .ofCode code details
  | .invalidArgument _ code details => .ofCode code details
  | .hardwareFault code details => .ofCode code details
  | error => .other (toString error)

/-- The text that reading yields. -/
def readText (read : IO ByteArray) : IO (Except Unreadable String) := do
  try
    return match String.fromUTF8? (← read) with
      | some text => .ok text
      | none => .error .notText
  catch error => return .error (.ofError error)

/-- Reads all files at these paths, to look them up later. -/
def readTexts (paths : List String) : IO Reading := do
  let texts ← paths.mapM fun (path : String) => return (path, ← readText (IO.FS.readBinFile path))
  return fun path => (texts.lookup path).getD (.error .missing)

/-- Fetches what a run with these arguments needs. -/
def surroundings (arguments : List String) : IO Surroundings := do
  let terminal ← (← IO.getStdout).isTty
  let bare : Surroundings := ⟨fun _ => .error .missing, .ok "", terminal⟩
  match request bare arguments with
  | .ok (.run s) =>
    let stdin ← if s.message.isNone then readText (← IO.getStdin).readBinToEnd else pure bare.stdin
    return { bare with read := ← readTexts s.scripts, stdin }
  | _ => return bare

end Parley.CommandLine

open Parley.CommandLine in
def main (arguments : List String) : IO UInt32 := do
  let output := run (← surroundings arguments) arguments
  IO.print output.stdout
  IO.eprint output.stderr
  return output.exitCode.toUInt32
