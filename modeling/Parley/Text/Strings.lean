import Parley.Text.Words
import Parley.Unicode.Lowercase

/-!
# Operations on strings

Lower case, trimming and words for strings, and the key of a name: two names that differ only in
case and in white space at their ends have one key.
-/
namespace Parley.Text
open Parley.Unicode

def lowercased (text : String) : String := String.ofList (lowercase text.toList)

def trimmed (text : String) : String := String.ofList (trim text.toList)

/-- The form under which a name is stored and looked up. -/
def key (name : String) : String := String.ofList (lowercase (trim name.toList))

/-- Whether a string holds nothing but white space. -/
def isBlank (text : String) : Bool := text.toList.all isWhiteSpace

def wordList (text : String) : List String := (words text.toList).map String.ofList

end Parley.Text
