import Parley.Pattern.Token

/-!
# Specificity of patterns

A pattern of literal words only is more specific than one with narrower tokens, and that more than
one with a wildcard for any word. Within a band more literal words come first, then a longer text,
and the text itself, in the order of its code points, decides last.
-/
namespace Parley

/-- The broad kinds of patterns, the most specific first. -/
inductive Band where
  | atomic
  | constrained
  | wild
  deriving DecidableEq

namespace Band

def rank : Band → Nat
  | atomic => 0
  | constrained => 1
  | wild => 2

end Band

/-- The band of a pattern: any use of the wildcard for all words makes it wild. -/
def Pattern.band (p : Pattern) : Band :=
  if p.uses .wildAny then .wild
  else if p.tokens.all Token.isLiteral then .atomic
  else .constrained

structure Specificity where
  band : Band
  literals : Nat
  length : Nat
  text : String
  deriving DecidableEq

namespace Specificity

/-- Orders by band, more literals, greater length and text. -/
def compare : Specificity → Specificity → Ordering :=
  compareLex (compareOn fun s => s.band.rank) <|
  compareLex (fun a b => compareOn literals b a) <|
  compareLex (fun a b => compareOn length b a) <|
  compareOn text

instance : Ord Specificity := ⟨compare⟩

end Specificity

def Pattern.specificity (p : Pattern) : Specificity :=
  let text := p.text
  ⟨p.band, p.literalCount, text.length, text⟩

end Parley
