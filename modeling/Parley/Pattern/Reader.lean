import Parley.Pattern.Lexeme
import Parley.Pattern.Tag
import Parley.Pattern.Token

/-!
# Reading patterns

The text of a pattern loses its tags, is put into lower case and cut into lexemes, and each lexeme
is a token. Of several faults the first is reported, where a fault of the brackets comes after
those of the lexemes before it.
-/
namespace Parley
open Parley.Unicode

/-- Whether `c` may stand in the name of an array: a small letter, a digit or a low line. -/
def isNameChar (c : Char) : Bool :=
  ('a' ≤ c && c ≤ 'z') || ('0' ≤ c && c ≤ '9') || c == '_'

def arrayName (name : List Char) : Except Malformed String :=
  if !name.isEmpty && name.all isNameChar then .ok (String.ofList name)
  else .error (.invalidArrayName (String.ofList name))

namespace Phrase

/-- Whether a word may stand in a group: it is no wildcard, holds no star and names no array. -/
def isPlain (word : List Char) : Bool :=
  word != ['_'] && word != ['#'] && !word.contains '*' && word.head? != some '@'

def read (text : List Char) : Except Malformed Phrase :=
  let words := Text.words text
  if words.isEmpty then .error .emptyAlternative
  else
    match words.find? (!isPlain ·) with
    | some word => .error (.notPlain (String.ofList word))
    | none => .ok (words.map String.ofList)

def readAll : List (List Char) → Except Malformed (List Phrase)
  | [] => .ok []
  | text :: rest => do return (← read text) :: (← readAll rest)

end Phrase

namespace Token

/-- The token that a word spells. -/
def ofWord : List Char → Except Malformed Token
  | ['*'] => .ok (.wild .any)
  | ['_'] => .ok (.wild .alpha)
  | ['#'] => .ok (.wild .number)
  | '@' :: name => do return .array (← arrayName name) false
  | word =>
    if word.contains '*' then .error (.attachedStar (String.ofList word))
    else .ok (.literal (String.ofList word))

/-- The phrases of a group, apart by bars. -/
def ofPhrases (bracket : Bracket) (content : List Char) : Except Malformed Token := do
  let phrases ← Phrase.readAll (Text.pieces (· == '|') content)
  return match bracket with
    | .round => .alternation phrases
    | .square => .optional phrases

/-- The token that a group spells. -/
def ofGroup (bracket : Bracket) (content : List Char) : Except Malformed Token :=
  match bracket, Text.trim content with
  | _, [] => .error .emptyGroup
  | .round, '@' :: name =>
    if name.contains '|' then ofPhrases .round ('@' :: name)
    else do return .array (← arrayName name) true
  | bracket, content => ofPhrases bracket content

def ofLexeme : Lexeme → Except Malformed Token
  | .word text => ofWord text
  | .group bracket content => ofGroup bracket content

def ofLexemes : List Lexeme → Except Malformed (List Token)
  | [] => .ok []
  | lexeme :: rest => do return (← ofLexeme lexeme) :: (← ofLexemes rest)

end Token

namespace Pattern

/-- The tokens of a body that has lost its tags. -/
def readBody (body : List Char) : Except Malformed (List Token) := do
  let scan := Lexeme.scan (lowercase body)
  let tokens ← Token.ofLexemes scan.lexemes
  match scan.fault with
  | some fault => .error fault
  | none => if tokens.isEmpty then .error .emptyPattern else .ok tokens

/-- Reads the text of a pattern. -/
def read (text : String) : Except Malformed Pattern := do
  let (body, weight) ← Tag.strip text.toList
  return { tokens := ← readBody body, weight }

end Pattern
end Parley
