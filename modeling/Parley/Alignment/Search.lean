import Parley.Alignment.Visited
import Parley.Arrays
import Parley.Message

/-!
# Aligning a pattern with a message

Token by token, an alignment takes blocks of consecutive words until all words are taken. Among
the blocks that a token could take there is an order of preference, a longer run first and then
phrases as they are declared, and the preferred alignment is the first in this order at the first
token where two differ. The search for it goes depth first and never enters a point twice: had
there been an alignment beyond that point, the search would have ended with it.
-/
namespace Parley

namespace WildKind

def admits : WildKind → Word → Bool
  | any, _ => true
  | alpha, word => word.isAlphabetic
  | number, word => word.isNumeric

end WildKind

namespace Phrase

/-- Whether the words of a phrase stand at the front of `words`. -/
def fits : Phrase → List Word → Bool
  | [], _ => true
  | _ :: _, [] => false
  | literal :: phrase, word :: words => word.is literal && fits phrase words

/-- The lengths of the phrases that fit, in the order in which they are declared. -/
def fitting (phrases : List Phrase) (words : List Word) : List Nat :=
  (phrases.filter (fits · words)).map List.length

end Phrase

namespace Token

/-- How many words a token may take from the front of `words`, the preferred numbers first. -/
def choices (arrays : Arrays) (token : Token) (words : List Word) : List Nat :=
  match token with
  | literal word => if Phrase.fits [word] words then [1] else []
  | wild kind => (List.range' 1 (words.takeWhile kind.admits).length).reverse
  | alternation phrases => Phrase.fitting phrases words
  | optional phrases => Phrase.fitting phrases words ++ [0]
  | array name _ => ((arrays.get? name).map (Phrase.fitting · words)).getD []

end Token

namespace Alignment

/-- A block of consecutive words of a message. -/
structure Span where
  start : Nat
  length : Nat
  deriving DecidableEq

namespace Span

def block (span : Span) (words : List Word) : List Word :=
  (words.drop span.start).take span.length

end Span

/-- An alignment of the first tokens with the first words. -/
structure Partial where
  /-- How many words are taken. -/
  position : Nat
  /-- The blocks that were captured, latest first. -/
  spans : List Span
  deriving DecidableEq

namespace Partial

def start : Partial := ⟨0, []⟩

/-- Lets the next token take `n` words. -/
def take (m : Partial) (token : Token) (n : Nat) : Partial where
  position := m.position + n
  spans := if token.captures then ⟨m.position, n⟩ :: m.spans else m.spans

/-- The ways to go on with the next token, the preferred ones first. -/
def next (arrays : Arrays) (words : List Word) (m : Partial) (token : Token) : List Partial :=
  (token.choices arrays (words.drop m.position)).map (m.take token)

/-- The texts of the captured blocks in the order of their tokens. -/
def captures (m : Partial) (words : List Word) : List String :=
  m.spans.reverse.map fun span => Message.bareText (span.block words)

end Partial

/-- What a search found, and the points it has passed. -/
structure Outcome where
  found : Option Partial
  visited : Visited

/-- The first success among attempts, each of which starts with the points passed before it. -/
def firstOf (attempt : Partial → Visited → Outcome) : List Partial → Visited → Outcome
  | [], visited => ⟨none, visited⟩
  | m :: others, visited =>
    let outcome := attempt m visited
    if outcome.found.isSome then outcome else firstOf attempt others outcome.visited

/-- Searches for a way to let `tokens` take all the words from the position of `m` on. -/
def search (arrays : Arrays) (words : List Word) : List Token → Partial → Visited → Outcome
  | [], m, visited => ⟨if m.position = words.length then some m else none, visited⟩
  | token :: tokens, m, visited =>
    let point : Point := ⟨tokens.length + 1, m.position⟩
    if visited.contains point then ⟨none, visited⟩
    else firstOf (search arrays words tokens) (m.next arrays words token) (visited.insert point)

/-- The whole search for one pattern and one message. -/
def run (arrays : Arrays) (pattern : Pattern) (words : List Word) : Outcome :=
  search arrays words pattern.tokens .start .empty

end Alignment

namespace Pattern

/-- The captures of the preferred alignment with `words`, if there is an alignment. -/
def align (arrays : Arrays) (pattern : Pattern) (words : List Word) : Option (List String) :=
  (Alignment.run arrays pattern words).found.map (·.captures words)

end Pattern
end Parley
