import Parley.Pattern.Malformed
import Parley.Unicode.WhiteSpace

/-!
# Words and groups

The body of a pattern is read as words and bracketed groups. White space and brackets end a word;
a group ends at its own closing bracket and holds no other bracket. Reading stops at the first
bracket at fault, with the lexemes that were complete before it.
-/
namespace Parley
open Parley.Unicode

inductive Lexeme where
  | word (text : List Char)
  | group (bracket : Bracket) (content : List Char)
  deriving DecidableEq

namespace Lexeme

/-- Where a reader stands; what it has read of the word or group is kept last character first. -/
inductive State where
  | outside (run : List Char)
  | inside (bracket : Bracket) (content : List Char)

/-- The word that ends here, if one has begun. -/
def ended (run : List Char) : List Lexeme :=
  if run.isEmpty then [] else [.word run.reverse]

/-- What a text holds: its complete lexemes, and the fault that ended the reading, if any. -/
structure Scan where
  lexemes : List Lexeme
  fault : Option Malformed

def Scan.prepend (lexemes : List Lexeme) (scan : Scan) : Scan :=
  { scan with lexemes := lexemes ++ scan.lexemes }

def scanFrom : State → List Char → Scan
  | .outside run, [] => ⟨ended run, none⟩
  | .inside bracket _, [] => ⟨[], some (.unclosed bracket)⟩
  | .outside run, c :: rest =>
    match Bracket.ofOpening? c, Bracket.ofClosing? c with
    | some bracket, _ => (scanFrom (.inside bracket []) rest).prepend (ended run)
    | none, some bracket => ⟨[], some (.unopened bracket)⟩
    | none, none =>
      if isWhiteSpace c then (scanFrom (.outside []) rest).prepend (ended run)
      else scanFrom (.outside (c :: run)) rest
  | .inside bracket content, c :: rest =>
    match Bracket.ofOpening? c, Bracket.ofClosing? c with
    | some _, _ => ⟨[], some .nestedGroup⟩
    | none, some closing =>
      if closing = bracket then
        (scanFrom (.outside []) rest).prepend [.group bracket content.reverse]
      else ⟨[], some (.mismatched closing)⟩
    | none, none => scanFrom (.inside bracket (c :: content)) rest

def scan (text : List Char) : Scan := scanFrom (.outside []) text

end Lexeme
end Parley
