/-!
# Why a pattern is refused

A bracket opens a group, round for an alternation or a captured array and square for an optional.
Each cause carries the piece of text at fault, and has one wording.
-/
namespace Parley

inductive Bracket where
  | round
  | square
  deriving DecidableEq

namespace Bracket

def opening : Bracket → Char
  | round => '('
  | square => '['

def closing : Bracket → Char
  | round => ')'
  | square => ']'

def ofOpening? : Char → Option Bracket
  | '(' => some round
  | '[' => some square
  | _ => none

def ofClosing? : Char → Option Bracket
  | ')' => some round
  | ']' => some square
  | _ => none

@[simp] theorem ofOpening?_opening (bracket : Bracket) :
    ofOpening? bracket.opening = some bracket := by cases bracket <;> rfl

@[simp] theorem ofClosing?_closing (bracket : Bracket) :
    ofClosing? bracket.closing = some bracket := by cases bracket <;> rfl

end Bracket

/-- The ways in which the text of a pattern can fail to be one. -/
inductive Malformed where
  /-- A tag that is not a weight. -/
  | unsupportedTag (tag : String)
  | invalidWeight (value : String)
  /-- A brace that belongs to no tag. -/
  | looseBrace
  /-- A closing bracket outside groups. -/
  | unopened (bracket : Bracket)
  | unclosed (bracket : Bracket)
  /-- A group closed by the other kind of bracket. -/
  | mismatched (closing : Bracket)
  | nestedGroup
  | emptyGroup
  | emptyAlternative
  /-- A wildcard or an array among the words of a group. -/
  | notPlain (word : String)
  /-- A star inside a word. -/
  | attachedStar (word : String)
  | invalidArrayName (name : String)
  | emptyPattern
  deriving DecidableEq

namespace Malformed

def reason : Malformed → String
  | unsupportedTag tag => "unsupported tag '\x7b" ++ tag ++ "\x7d'"
  | invalidWeight value => "invalid weight '" ++ value ++ "'"
  | looseBrace => "unbalanced tag braces"
  | unopened bracket => "unbalanced '" ++ bracket.closing.toString ++ "'"
  | unclosed bracket => "unclosed '" ++ bracket.opening.toString ++ "'"
  | mismatched bracket => "unexpected '" ++ bracket.closing.toString ++ "' inside group"
  | nestedGroup => "nested groups are not supported"
  | emptyGroup => "empty group"
  | emptyAlternative => "empty alternative in group"
  | notPlain word => "'" ++ word ++ "' is not allowed inside a group"
  | attachedStar word => "wildcard '*' must stand alone, found '" ++ word ++ "'"
  | invalidArrayName name => "invalid array name '" ++ name ++ "'"
  | emptyPattern => "empty pattern"

end Malformed
end Parley
