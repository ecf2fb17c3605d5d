import Parley.Bot.Basic

/-!
# Arguments

Options are read from the left. The first argument that is no option begins the message, which takes
all arguments from there on; after `--` the message takes all that follow. A valued option has its
value in the next argument, or in the same one after an equals sign.
-/
namespace Parley.CommandLine

/-- The options with a value. -/
inductive Valued where
  | script
  | topic
  | previous
  deriving DecidableEq

namespace Valued

def name : Valued → String
  | script => "--script"
  | topic => "--topic"
  | previous => "--previous"

/-- What stands before the value when both are one argument. -/
def lead (option : Valued) : List Char := option.name.toList ++ ['=']

end Valued

/-- Drops `mark` from the front of a text as often as it stands there, at most `times` times. -/
def dropLead (mark : List Char) : (times : Nat) → List Char → List Char
  | 0, text => text
  | times + 1, text =>
    if mark.isPrefixOf text then dropLead mark times (text.drop mark.length) else text

/-- What is left of a text when all copies of `mark` are dropped from its front. -/
def withoutLead (mark text : List Char) : List Char := dropLead mark text.length text

/-- What one argument says. -/
inductive Argument where
  | help
  | version
  | color (on : Bool)
  /-- An option whose value is the next argument. -/
  | valued (option : Valued)
  /-- An option together with its value. -/
  | assigned (option : Valued) (value : String)
  | separator
  | unknown
  | word
  deriving DecidableEq

namespace Argument

/-- The value that an argument assigns to an option. -/
def assigned? (argument : List Char) (option : Valued) : Option Argument :=
  if option.lead.isPrefixOf argument then
    some (.assigned option (String.ofList (withoutLead option.lead argument)))
  else none

def ofString (argument : String) : Argument :=
  if argument = "-h" || argument = "--help" then .help
  else if argument = "-V" || argument = "--version" then .version
  else if argument = "--color" then .color true
  else if argument = "--no-color" then .color false
  else if argument = "-s" || argument = "--script" then .valued .script
  else if argument = "-t" || argument = "--topic" then .valued .topic
  else if argument = "-p" || argument = "--previous" then .valued .previous
  else if argument = "--" then .separator
  else
    match [Valued.script, .topic, .previous].findSome? (assigned? argument.toList) with
    | some found => found
    | none => if argument.toList.head? = some '-' then .unknown else .word

end Argument

/-- What the options and the message ask for. -/
structure Settings where
  scripts : List String
  topic : String
  previous : Option String
  message : Option String
  color : Bool
  deriving DecidableEq

namespace Settings

def standard : Settings := ⟨[], defaultTopic, none, none, false⟩

def set (s : Settings) (value : String) : Valued → Settings
  | .script => { s with scripts := s.scripts ++ [value] }
  | .topic => { s with topic := value }
  | .previous => { s with previous := some value }

/-- Takes the remaining arguments as the message. -/
def withMessage (s : Settings) (arguments : List String) : Settings :=
  { s with message := some (" ".intercalate arguments) }

end Settings

inductive UsageError where
  | missingValue (option : Valued)
  | unknownOption (argument : String)
  deriving DecidableEq

namespace UsageError

def message : UsageError → String
  | missingValue .script => "error: --script expects a path"
  | missingValue option => "error: " ++ option.name ++ " expects a value"
  | unknownOption argument => "error: unknown option '" ++ argument ++ "'"

end UsageError

/-- What the program is asked to do. -/
inductive Request where
  | help
  | version
  | run (settings : Settings)
  deriving DecidableEq

/-- Reads the arguments that follow those that made the settings `s`. -/
def readArguments (s : Settings) : List String → Except UsageError Request
  | [] => .ok (.run s)
  | argument :: rest =>
    match Argument.ofString argument with
    | .help => .ok .help
    | .version => .ok .version
    | .color on => readArguments { s with color := on } rest
    | .assigned option value => readArguments (s.set value option) rest
    | .valued option =>
      match rest with
      | [] => .error (.missingValue option)
      | value :: rest => readArguments (s.set value option) rest
    | .separator =>
      if Text.isBlank (" ".intercalate rest) then .ok (.run s) else .ok (.run (s.withMessage rest))
    | .unknown => .error (.unknownOption argument)
    | .word => .ok (.run (s.withMessage (argument :: rest)))

end Parley.CommandLine
