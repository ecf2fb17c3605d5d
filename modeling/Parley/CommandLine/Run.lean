import Parley.CommandLine.Arguments
import Parley.CommandLine.Files
import Parley.CommandLine.Report

/-!
# Running the program

One run loads scripts in order, sorts the topics and matches one message. It ends with an exit
code: zero if it came to a match or to none, one if a script was rejected or the topic is unknown,
and two if the arguments, the message or a file could not be used.
-/
namespace Parley.CommandLine

def versionText : String := "colloquy 0.1.0"

def helpText : String :=
  versionText ++ "

Load trigger scripts, sort them, and show how one message matches.

Usage:
  colloquy [OPTIONS] [--] <message...>

Options:
  -s, --script <path>        Script file to load. Repeatable; loaded in order.
  -t, --topic <name>         Topic to match in. Default: " ++ defaultTopic ++ "
  -p, --previous <text>      The bot's previous reply, for %previous triggers.
  --color                    Force ANSI color output.
  --no-color                 Disable ANSI color output.
  -h, --help                 Show this help message.
  -V, --version              Print version information.

The message is read from stdin when no arguments are given.
Logging is controlled with RUST_LOG (default: colloquy=warn).

Exit codes:
  0  Success, matched or not.
  1  Script rejected or topic unknown.
  2  Invalid arguments, missing input or unreadable script.
"

/-- Why a run ends early. -/
inductive Failure where
  | usage (error : UsageError)
  /-- The message is left to a standard input that cannot be read. -/
  | noInput (reason : Unreadable)
  /-- The message is blank. -/
  | noMessage
  | unreadable (path : String) (reason : Unreadable)
  | rejected (path : String) (error : Error)
  | unmatched (error : Error)

namespace Failure

def exitCode : Failure → Nat
  | usage _ => 2
  | noInput _ => 2
  | noMessage => 2
  | unreadable _ _ => 2
  | rejected _ _ => 1
  | unmatched _ => 1

def message : Failure → String
  | usage error => error.message
  | noInput reason => "error: failed to read stdin: " ++ reason.message
  | noMessage => "error: no input provided\n\n" ++ helpText
  | unreadable path reason => "error: failed to read '" ++ path ++ "': " ++ reason.message
  | rejected path error => "error: " ++ path ++ ": " ++ error.message
  | unmatched error => "error: " ++ error.message

end Failure

namespace Settings

/-- The message as it is given, which is the standard input if the arguments hold none. -/
def given (s : Settings) (stdin : Except Unreadable String) : Except Unreadable String :=
  match s.message with
  | some message => .ok message
  | none => stdin

/-- The message of a run, without white space at its ends. -/
def input (s : Settings) (stdin : Except Unreadable String) : Except Failure String :=
  match s.given stdin with
  | .error reason => .error (.noInput reason)
  | .ok message =>
    if Text.isBlank message then .error .noMessage else .ok (Text.trimmed message)

end Settings

/-- Loads scripts in order, up to the first that cannot be loaded. -/
def loadScripts (read : Reading) :
    List String → Bot → Except Failure (Bot × List (String × LoadReport))
  | [], b => .ok (b, [])
  | path :: rest, b =>
    match read path with
    | .error reason => .error (.unreadable path reason)
    | .ok source =>
      match b.load source with
      | (_, .error error) => .error (.rejected path error)
      | (b, .ok report) => do
        let (b, reports) ← loadScripts read rest b
        return (b, (path, report) :: reports)

/-- Loads, sorts and matches. -/
def execute (read : Reading) (s : Settings) (input : String) : Except Failure Report := do
  let (b, loads) ← loadScripts read s.scripts (.new .standard)
  let (b, sorting) := b.sort
  match b.matchMessage s.topic input s.previous with
  | .error error => .error (.unmatched error)
  | .ok found =>
    return { topic := s.topic
             message := input
             loads
             sorting
             listed := (b.sorted .plain s.topic).toOption.getD []
             found }

/-- What a run leaves behind. -/
structure Output where
  exitCode : Nat
  stdout : String
  stderr : String
  deriving DecidableEq

namespace Output

def success (text : String) : Output := ⟨0, text, ""⟩

def failure (failure : Failure) : Output := ⟨failure.exitCode, "", failure.message ++ "\n"⟩

end Output

/-- What a run finds around it. -/
structure Surroundings where
  read : Reading
  stdin : Except Unreadable String
  /-- Whether the standard output is a terminal, which is then written in colors. -/
  terminal : Bool

/-- What the arguments ask for. -/
def request (around : Surroundings) (arguments : List String) : Except UsageError Request :=
  readArguments { Settings.standard with color := around.terminal } arguments

/-- The run that settings ask for. -/
def runSettings (around : Surroundings) (s : Settings) : Except Failure Report := do
  execute around.read s (← s.input around.stdin)

/-- One run of the program. -/
def run (around : Surroundings) (arguments : List String) : Output :=
  match request around arguments with
  | .error error => .failure (.usage error)
  | .ok .help => .success (helpText ++ "\n")
  | .ok .version => .success (versionText ++ "\n")
  | .ok (.run s) =>
    match runSettings around s with
    | .error failure => .failure failure
    | .ok report => .success (report.text s.color)

end Parley.CommandLine
