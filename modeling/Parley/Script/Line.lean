import Parley.Text.Words

/-!
# Lines of a script

A line is empty, a comment, the beginning of a block comment, or a command: one character and what
follows it, from where a comment at its end is cut away.
-/
namespace Parley.Script
open Parley.Text

inductive Line where
  /-- Nothing, or a comment to the end of the line. -/
  | blank
  /-- The beginning of a block comment, which may end on the same line. -/
  | comment (closed : Bool)
  | command (symbol : Char) (argument : List Char)
  deriving DecidableEq

namespace Line

def endsComment (text : List Char) : Bool := occurs ['*', '/'] text

/-- The line that a text without white space at its ends is. -/
def ofTrimmed (text : List Char) : Line :=
  if ['/', '*'].isPrefixOf text then .comment (endsComment text)
  else if ['/', '/'].isPrefixOf text then .blank
  else
    match trimEnd (before [' ', '/', '/', ' '] text) with
    | [] => .blank
    | symbol :: argument => .command symbol (trim argument)

end Line
end Parley.Script
