import Parley.Pattern.Token
import Parley.Text.Strings

/-!
# Arrays

Named lists of phrases that patterns refer to. Names and entries are kept in lower case, an entry
without words is left out, and a later definition of a name replaces the earlier one in its place.
-/
namespace Parley

structure Arrays where
  rows : List (String × List Phrase)
  deriving DecidableEq

namespace Arrays

def empty : Arrays := ⟨[]⟩

def get? (arrays : Arrays) (name : String) : Option (List Phrase) := arrays.rows.lookup name

def setRow (name : String) (phrases : List Phrase) :
    List (String × List Phrase) → List (String × List Phrase)
  | [] => [(name, phrases)]
  | row :: rest => if row.1 = name then (name, phrases) :: rest else row :: setRow name phrases rest

def set (arrays : Arrays) (name : String) (phrases : List Phrase) : Arrays :=
  ⟨setRow name phrases arrays.rows⟩

/-- The phrases that the entries of a definition spell. -/
def phrases (entries : List String) : List Phrase :=
  (entries.map fun entry => Text.wordList (Text.lowercased entry)).filter (!·.isEmpty)

/-- Defines or redefines an array. -/
def define (arrays : Arrays) (name : String) (entries : List String) : Arrays :=
  arrays.set (Text.lowercased name) (phrases entries)

/-- All arrays in the order of their names. -/
def sorted (arrays : Arrays) : List (String × List Phrase) :=
  arrays.rows.mergeSort fun a b => (compare a.1 b.1).isLE

end Arrays
end Parley
