import Parley.Text.Strings
import Parley.Unicode.WordChar

/-!
# Definitions

A definition is a kind, perhaps a name, an equals sign and a value. The kind is an identifier;
what stands between it and the first equals sign is the name, which white space parts from the
kind.
-/
namespace Parley.Script
open Parley.Text Parley.Unicode

structure Definition where
  kind : String
  name : String
  value : List Char
  deriving DecidableEq

namespace Definition

def read? (text : List Char) : Option Definition :=
  let kind := text.takeWhile isWordChar
  let rest := text.dropWhile isWordChar
  let name := rest.takeWhile (· != '=')
  let parted := name.head?.all isWhiteSpace
  match rest.dropWhile (· != '=') with
  | '=' :: value =>
    if kind.isEmpty || !parted then none
    else some ⟨String.ofList kind, String.ofList (trim name), trim value⟩
  | _ => none

/-- The entries that a value lists: apart by bars if it holds any, and else by white space. -/
def entries (value : List Char) : List String :=
  if value.contains '|' then (pieces (· == '|') value).map fun entry => String.ofList (trim entry)
  else (words value).map String.ofList

end Definition
end Parley.Script
