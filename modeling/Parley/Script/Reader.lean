import Parley.Decimal.Reader
import Parley.Error
import Parley.Script.Definition
import Parley.Script.Line
import Parley.Script.Warning
import Parley.Topic.Graph

/-!
# Reading scripts

A script is read line by line into directives, without touching any bot. A trigger stays open
for the lines that belong to it until another one, a block or the end comes. Reading fails at the
first definition of a version that is no finite number or is above the supported one.
-/
namespace Parley.Script
open Parley.Text

/-- A trigger as a script writes it. -/
structure TriggerText where
  topic : String
  pattern : String
  previous : Option String
  responses : List String
  deriving DecidableEq

inductive Directive where
  | array (name : String) (entries : List String)
  | topic (name : String) (includes inherits : List String)
  | trigger (text : TriggerText)
  deriving DecidableEq

/-- What has been read of a script, and where its reader stands. Directives and warnings are kept
latest first. -/
structure State where
  version : Option Float
  directives : List Directive
  warnings : List Warning
  /-- The topic of the triggers that follow. -/
  topic : String
  /-- The trigger that is open. -/
  current : Option TriggerText
  inComment : Bool
  inObject : Bool

namespace State

def start (topic : String) : State := ⟨none, [], [], topic, none, false, false⟩

def warn (s : State) (line : Nat) (oddity : Oddity) : State :=
  { s with warnings := ⟨line, oddity⟩ :: s.warnings }

def add (s : State) (directive : Directive) : State :=
  { s with directives := directive :: s.directives }

/-- Closes the open trigger. -/
def closeTrigger (s : State) : State :=
  match s.current with
  | none => s
  | some trigger => { s.add (.trigger trigger) with current := none }

end State

/-- The settings of a reader. -/
structure Rules where
  supported : Float
  /-- The topic of triggers outside blocks. -/
  defaultTopic : String
  /-- The topic of the block that a script may begin with. -/
  beginTopic : String

/-- The version that a value declares. -/
def readVersion (supported : Float) (value : List Char) : Except Error Float :=
  match (Decimal.read? value).filter Float.isFinite with
  | none => .error (.invalidVersion (String.ofList value))
  | some declared =>
    if declared > supported then .error (.tooNew declared supported) else .ok declared

def readDefinition (rules : Rules) (line : Nat) (argument : List Char) (s : State) :
    Except Error State :=
  match Definition.read? argument with
  | none => .ok (s.warn line .malformedDefinition)
  | some d =>
    if d.kind = "version" then
      (readVersion rules.supported d.value).map fun version => { s with version := some version }
    else if d.kind = "array" then
      if d.name = "" then .ok (s.warn line .unnamedArray)
      else .ok (s.add (.array d.name (Definition.entries d.value)))
    else .ok (s.warn line (.unsupportedDefinition d.kind))

/-- The topics that the words after a topic's name list, and the words that belong to no list. -/
structure Relatives where
  includes : List String
  inherits : List String
  stray : List String
  deriving DecidableEq

/-- Sorts words into lists, where a keyword names the list of the words after it. -/
def readRelatives : Option Relation → List String → Relatives
  | _, [] => ⟨[], [], []⟩
  | relation, word :: rest =>
    if word = "includes" then readRelatives (some .includes) rest
    else if word = "inherits" then readRelatives (some .inherits) rest
    else
      let relatives := readRelatives relation rest
      match relation with
      | some .includes => { relatives with includes := word :: relatives.includes }
      | some .inherits => { relatives with inherits := word :: relatives.inherits }
      | none => { relatives with stray := word :: relatives.stray }

def openTopic (line : Nat) (words : List String) (s : State) : State :=
  match words with
  | [] => s.warn line .unnamedTopic
  | name :: rest =>
    let relatives := readRelatives none rest
    let s := relatives.stray.foldl (fun s word => s.warn line (.strayWord word)) s
    { s.add (.topic name relatives.includes relatives.inherits) with topic := name }

/-- Opens a block, which closes an open trigger. -/
def openBlock (rules : Rules) (line : Nat) (argument : List Char) (s : State) : State :=
  let s := s.closeTrigger
  match (words argument).map String.ofList with
  | [] => s.warn line .untypedBlock
  | kind :: rest =>
    if kind = "topic" then openTopic line rest s
    else if kind = "begin" then
      { s.add (.topic rules.beginTopic [] []) with topic := rules.beginTopic }
    else if kind = "object" then { s with inObject := true }
    else s.warn line (.unsupportedBlock kind)

/-- Adds to the open trigger's last response. -/
def continueResponse (line : Nat) (text : String) (s : State) : State :=
  match s.current with
  | none => s.warn line .continuationWithoutResponse
  | some trigger =>
    match trigger.responses.getLast? with
    | none => s.warn line .continuationWithoutResponse
    | some last =>
      let responses := trigger.responses.dropLast ++ [last ++ text]
      { s with current := some { trigger with responses } }

/-- Reads a command outside comments and objects. -/
def readCommand (rules : Rules) (line : Nat) (symbol : Char) (argument : List Char) (s : State) :
    Except Error State :=
  let text := String.ofList argument
  match symbol with
  | '!' => readDefinition rules line argument s
  | '>' => .ok (openBlock rules line argument s)
  | '<' => .ok { s.closeTrigger with topic := rules.defaultTopic }
  | '+' => .ok { s.closeTrigger with current := some ⟨s.topic, text, none, []⟩ }
  | '%' =>
    match s.current with
    | none => .ok (s.warn line .previousWithoutTrigger)
    | some trigger => .ok { s with current := some { trigger with previous := some text } }
  | '-' =>
    match s.current with
    | none => .ok (s.warn line .responseWithoutTrigger)
    | some trigger =>
      .ok { s with current := some { trigger with responses := trigger.responses ++ [text] } }
  | '^' => .ok (continueResponse line text s)
  | symbol => .ok (s.warn line (.unsupportedCommand symbol))

/-- Reads one line. -/
def readLine (rules : Rules) (line : Nat) (text : List Char) (s : State) : Except Error State :=
  let text := trim text
  if s.inComment then .ok { s with inComment := !Line.endsComment text }
  else
    match Line.ofTrimmed text with
    | .blank => .ok s
    | .comment closed => .ok { s with inComment := !closed }
    | .command symbol argument =>
      if s.inObject then
        let ended := symbol = '<' && "object".toList.isPrefixOf argument
        .ok { s with inObject := !ended }
      else readCommand rules line symbol argument s

/-- Reads lines, the first of which has the number `line`. -/
def readLines (rules : Rules) : (line : Nat) → List (List Char) → State → Except Error State
  | _, [], s => .ok s
  | line, text :: rest, s => do readLines rules (line + 1) rest (← readLine rules line text s)

/-- A script that has been read. -/
structure Parsed where
  version : Option Float
  directives : List Directive
  warnings : List Warning

/-- What the state after the last line amounts to. -/
def State.finish (s : State) : Parsed :=
  let s := s.closeTrigger
  ⟨s.version, s.directives.reverse, s.warnings.reverse⟩

def read (rules : Rules) (source : String) : Except Error Parsed := do
  let s ← readLines rules 1 (lines source.toList) (.start rules.defaultTopic)
  return s.finish

end Parley.Script
