/-!
# Patterns

A pattern is a list of tokens, each of which takes a block of consecutive words of a message, and
a weight that ranks it among others. Its text writes the tokens out again in one fixed way, so
equal texts mean equal tokens.
-/
namespace Parley

/-- The words that a wildcard admits. -/
inductive WildKind where
  | any
  | alpha
  | number
  deriving DecidableEq

/-- One choice of a group: words that must follow one another. -/
abbrev Phrase := List String

inductive Token where
  /-- One given word. -/
  | literal (word : String)
  /-- One or more words that the kind admits. -/
  | wild (kind : WildKind)
  /-- One of the phrases, captured. -/
  | alternation (phrases : List Phrase)
  /-- One of the phrases, or nothing. -/
  | optional (phrases : List Phrase)
  /-- One of the entries of a named array. -/
  | array (name : String) (captured : Bool)
  deriving DecidableEq

namespace WildKind

def symbol : WildKind → String
  | any => "*"
  | alpha => "_"
  | number => "#"

end WildKind

/-- What a token that is not a literal contributes to the character of its pattern. -/
inductive Feature where
  | wildAny
  | wildAlpha
  | wildNumber
  | alternation
  | optional
  | array
  deriving DecidableEq

namespace Feature

def all : List Feature := [wildAny, wildAlpha, wildNumber, alternation, optional, array]

/-- The bit that stands for a feature in a mask. -/
def bit : Feature → Nat
  | wildAny => 1
  | wildAlpha => 2
  | wildNumber => 4
  | alternation => 8
  | optional => 16
  | array => 32

end Feature

/-- The phrases of a group, words apart by spaces and phrases by bars. -/
def phrasesText (phrases : List Phrase) : String :=
  "|".intercalate (phrases.map (" ".intercalate ·))

namespace Token

/-- Whether the words that the token takes are captured. -/
def captures : Token → Bool
  | literal _ => false
  | wild _ => true
  | alternation _ => true
  | optional _ => false
  | array _ captured => captured

def isLiteral : Token → Bool
  | literal _ => true
  | _ => false

def feature? : Token → Option Feature
  | literal _ => none
  | wild .any => some .wildAny
  | wild .alpha => some .wildAlpha
  | wild .number => some .wildNumber
  | alternation _ => some .alternation
  | optional _ => some .optional
  | array _ _ => some .array

def text : Token → String
  | literal word => word
  | wild kind => kind.symbol
  | alternation phrases => "(" ++ phrasesText phrases ++ ")"
  | optional phrases => "[" ++ phrasesText phrases ++ "]"
  | array name true => "(@" ++ name ++ ")"
  | array name false => "@" ++ name

end Token

/-- A pattern: what it asks of a message, and the weight that its tag declares. -/
structure Pattern where
  tokens : List Token
  weight : Nat
  deriving DecidableEq

namespace Pattern

/-- The canonical text: the tokens apart by single spaces, without tags. -/
def text (p : Pattern) : String := " ".intercalate (p.tokens.map Token.text)

def uses (p : Pattern) (feature : Feature) : Bool :=
  p.tokens.any fun token => token.feature? == some feature

/-- The features in use, as the sum of their bits. -/
def mask (p : Pattern) : Nat :=
  (Feature.all.filter p.uses).foldl (fun mask feature => mask + feature.bit) 0

def literalCount (p : Pattern) : Nat := p.tokens.countP Token.isLiteral

def captureCount (p : Pattern) : Nat := p.tokens.countP Token.captures

end Pattern
end Parley
