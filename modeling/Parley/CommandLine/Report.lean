import Parley.Bot.Loading
import Parley.Bot.Matching
import Parley.Text.Quoted

/-!
# The report of a run

What was loaded, how the topics were sorted, the first entries of the topic and the match, line by
line, with colors if they are wanted. An empty line ends the report. How long a run took is not part
of it.
-/
namespace Parley.CommandLine

/-- The styles that a terminal knows by numbers. -/
inductive Style where
  | dim
  | bold
  | red
  | green
  | yellow
  | blue
  | cyan
  | gray
  deriving DecidableEq

namespace Style

def code : Style → String
  | dim => "\x1b[2m"
  | bold => "\x1b[1m"
  | red => "\x1b[31m"
  | green => "\x1b[32m"
  | yellow => "\x1b[33m"
  | blue => "\x1b[34m"
  | cyan => "\x1b[36m"
  | gray => "\x1b[90m"

end Style

/-- Puts a text into a style if `color` is on. -/
def paint (color : Bool) (style : Style) (text : String) : String :=
  if color then style.code ++ text ++ "\x1b[0m" else text

/-- What one run of the program did. -/
structure Report where
  topic : String
  message : String
  /-- The scripts in the order in which they were loaded, by path. -/
  loads : List (String × LoadReport)
  sorting : SortReport
  listed : List Bot.Listed
  found : Option Match

/-- How a fault of the graph is written in a report. -/
def issueText : Issue → String
  | .depthExceeded topic =>
    "DepthExceeded \x7b topic: " ++ String.ofList (Text.quote topic.toList) ++ " \x7d"
  | .cycle topic => "Cycle \x7b topic: " ++ String.ofList (Text.quote topic.toList) ++ " \x7d"

namespace Report

/-- An empty line and the title of a section. -/
def heading (color : Bool) (title : String) : List String :=
  ["", paint color .gray ("━━━ " ++ title ++ " ━━━")]

def loadLines (color : Bool) (load : String × LoadReport) : List String :=
  let version := match load.2.version with
    | some version => "v" ++ Decimal.shortest version
    | none => "unversioned"
  ["  " ++ paint color .blue load.1 ++ " " ++ paint color .dim version ++ " " ++
    paint color .green ("✓ " ++ toString load.2.triggers ++ " triggers")] ++
  load.2.rejected.map (fun error => "    " ++ paint color .red "✗" ++ " " ++ error.message) ++
  load.2.warnings.map fun warning =>
    "    " ++ paint color .yellow "!" ++ " " ++ paint color .dim warning

def scriptLines (color : Bool) (loads : List (String × LoadReport)) : List String :=
  if loads.isEmpty then ["  " ++ paint color .dim "No scripts loaded"]
  else loads.flatMap (loadLines color)

def countsLine (color : Bool) (topic : String) (counts : TopicReport) : String :=
  let bar := " " ++ paint color .dim "│" ++ " "
  "  " ++ paint color .cyan topic ++ " " ++
    paint color .green (toString counts.plain) ++ " triggers " ++ bar ++
    paint color .green (toString counts.previous) ++ " %previous " ++ bar ++
    paint color .yellow (toString counts.duplicates) ++ " duplicates"

def issueLines (color : Bool) (report : TopicReport) : List String :=
  report.issues.map fun issue =>
    "  " ++ paint color .red "✗" ++ " " ++ paint color .blue report.topic ++ ": " ++ issueText issue

def sortLines (color : Bool) (topic : String) (sorting : SortReport) : List String :=
  ["  " ++ paint color .blue (toString sorting.length) ++ " topics sorted"] ++
  ((sorting.find? topic).map (countsLine color topic)).toList ++
  sorting.flatMap (issueLines color)

def listedLine (color : Bool) (place : Nat) (entry : Bot.Listed) : String :=
  let previous := match entry.previous with
    | some previous => " % " ++ previous
    | none => ""
  "  " ++ paint color .gray ("[" ++ toString place ++ "]") ++ " " ++
    paint color .green entry.pattern ++ paint color .dim previous ++ " " ++
    paint color .dim "│" ++ " " ++
    paint color .yellow (entry.owner ++ " depth " ++ toString entry.depth)

/-- How many entries of a topic a report shows. -/
def shown : Nat := 20

def listedLines (color : Bool) (listed : List Bot.Listed) : List String :=
  if listed.isEmpty then ["  " ++ paint color .dim "(empty)"]
  else
    (listed.take shown).mapIdx (listedLine color) ++
    if shown < listed.length then
      ["  " ++ paint color .dim ("... +" ++ toString (listed.length - shown) ++ " more")]
    else []

/-- The lines of numbered captures. -/
def captureLines (color : Bool) (name : String) (captures : List String) : List String :=
  captures.mapIdx fun i capture =>
    "      " ++ paint color .dim ("<" ++ name ++ toString (i + 1) ++ ">") ++ " " ++
      paint color .blue capture

def matchLines (color : Bool) (m : Match) : List String :=
  ["  " ++ paint color .bold (paint color .green m.pattern) ++ " " ++ paint color .dim "│" ++ " " ++
    paint color .yellow ("owner " ++ m.owner ++ " depth " ++ toString m.depth)] ++
  (m.previous.map fun previous =>
    "      " ++ paint color .dim "%previous:" ++ " " ++ paint color .cyan previous).toList ++
  captureLines color "star" m.captures ++
  captureLines color "botstar" m.previousCaptures ++
  m.responses.map fun response => "      " ++ paint color .dim "-" ++ " " ++ response

def noMatchLines (color : Bool) : List String :=
  [paint color .dim "  No trigger matched",
    "",
    paint color .yellow "Possible reasons:",
    "  • No trigger in the topic (or its includes/inherits) covers every word",
    "  • '_' and '#' wildcards only take letters and digits respectively",
    "  • An array referenced by the pattern is undefined",
    "",
    paint color .dim "  Tip: Set RUST_LOG=colloquy=trace to see every attempted trigger"]

def lines (color : Bool) (r : Report) : List String :=
  let title := "⚙  Matching: \"" ++ r.message ++ "\" in topic '" ++ r.topic ++ "'"
  ["", paint color .bold (paint color .cyan title)] ++
  heading color "Scripts" ++ scriptLines color r.loads ++
  heading color "Sort" ++ sortLines color r.topic r.sorting ++
  heading color ("Sorted triggers (" ++ r.topic ++ ")") ++ listedLines color r.listed ++
  heading color "Result" ++
  (match r.found with
    | some m => matchLines color m
    | none => noMatchLines color) ++
  [""]

def text (color : Bool) (r : Report) : String :=
  String.join ((r.lines color).map fun line => line ++ "\n")

end Report
end Parley.CommandLine
