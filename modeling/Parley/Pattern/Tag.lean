import Parley.Decimal.Digit
import Parley.Pattern.Malformed
import Parley.Text.Words
import Parley.Unicode.Lowercase

/-!
# Tags

A tag is text between braces that holds no brace. Tags stand anywhere in a pattern and are taken
out before anything else is read; the only tag with a meaning declares a weight, and the last one
counts.
-/
namespace Parley.Tag
open Parley.Unicode Parley.Text

/-- A text parted into its tags and the body around them, where each tag leaves one space. -/
structure Parted where
  body : List Char
  tags : List (List Char)
  /-- Whether every brace belongs to a tag. -/
  balanced : Bool

namespace Parted

def empty : Parted := ⟨[], [], true⟩

def consBody (c : Char) (p : Parted) : Parted := { p with body := c :: p.body }

def consTag (tag : List Char) (p : Parted) : Parted :=
  { p with body := ' ' :: p.body, tags := tag :: p.tags }

def loose (p : Parted) : Parted := { p with balanced := false }

end Parted

/-- Parts the rest of a text. Inside a tag, `tag` holds what was read of it, last character first;
an opening brace there leaves the one before it loose. -/
def part : Option (List Char) → List Char → Parted
  | none, [] => .empty
  | some _, [] => Parted.empty.loose
  | none, c :: rest =>
    if c = '\x7b' then part (some []) rest
    else if c = '\x7d' then (part none rest).loose
    else (part none rest).consBody c
  | some tag, c :: rest =>
    if c = '\x7b' then (part (some []) rest).loose
    else if c = '\x7d' then (part none rest).consTag tag.reverse
    else part (some (c :: tag)) rest

/-- The greatest weight that a tag can declare. -/
def maxWeight : Nat := 4294967295

/-- Reads a weight: decimal digits, with a plus sign before them if one likes. -/
def readWeight? (text : List Char) : Option Nat :=
  let digits := if text.head? = some '+' then text.tail else text
  if digits.isEmpty || !digits.all Decimal.isDigit then none
  else
    let value := Decimal.value digits
    if value ≤ maxWeight then some value else none

/-- The value that a trimmed lower case tag gives to the word weight, if it has that form. -/
def weightText? (tag : List Char) : Option (List Char) :=
  if "weight".toList.isPrefixOf tag then
    match trimStart (tag.drop 6) with
    | '=' :: rest =>
      let value := trimStart rest
      if value.isEmpty || value.any isWhiteSpace then none else some value
    | _ => none
  else none

/-- The weight that one tag declares. -/
def weight (tag : List Char) : Except Malformed Nat :=
  let tag := lowercase (trim tag)
  match weightText? tag with
  | none => .error (.unsupportedTag (String.ofList tag))
  | some value =>
    match readWeight? value with
    | none => .error (.invalidWeight (String.ofList value))
    | some weight => .ok weight

/-- The weight that a list of tags declares: the last one counts, none makes `start`. -/
def lastWeight (start : Nat) : List (List Char) → Except Malformed Nat
  | [] => .ok start
  | tag :: rest => do lastWeight (← weight tag) rest

/-- The body of a text and its weight. A faulty tag is reported before a loose brace. -/
def strip (text : List Char) : Except Malformed (List Char × Nat) := do
  let parted := part none text
  let weight ← lastWeight 0 parted.tags
  if parted.balanced then .ok (parted.body, weight) else .error .looseBrace

end Parley.Tag
