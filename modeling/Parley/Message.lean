import Parley.Decimal.Digit
import Parley.Text.Words
import Parley.Unicode.Alphabetic
import Parley.Unicode.Lowercase

/-!
# Messages

A message is read as words: runs of characters between white space and the separators `, ; ! ?`,
in lower case. A word is known by two forms, as it is written and bare of everything but letters
and numbers; a run without any of these is no word.
-/
namespace Parley
open Parley.Unicode

structure Word where
  raw : String
  bare : String
  deriving DecidableEq

namespace Word

/-- Whether a pattern's word means this word: it may spell either form. -/
def is (word : Word) (literal : String) : Bool := word.bare == literal || word.raw == literal

def isAlphabetic (word : Word) : Bool := word.bare.toList.all Unicode.isAlphabetic

/-- Whether the bare form is made of the digits from 0 to 9. -/
def isNumeric (word : Word) : Bool := word.bare.toList.all Decimal.isDigit

/-- The characters that remain in a bare form. -/
def keeps (c : Char) : Bool := isLetter c || isNumber c

/-- The word that a run of characters makes, if it makes one. -/
def ofRun? (run : List Char) : Option Word :=
  let bare := run.filter keeps
  if bare.isEmpty then none else some ⟨String.ofList run, String.ofList bare⟩

end Word

namespace Message

def isSeparator (c : Char) : Bool :=
  isWhiteSpace c || c == ',' || c == ';' || c == '!' || c == '?'

/-- The words of a text that is in lower case already. -/
def split (text : List Char) : List Word := (Text.pieces isSeparator text).filterMap Word.ofRun?

/-- The words of a message. -/
def read (text : String) : List Word := split (lowercase text.toList)

/-- The bare forms of a block of words, apart by spaces. -/
def bareText (block : List Word) : String := " ".intercalate (block.map Word.bare)

end Message
end Parley
