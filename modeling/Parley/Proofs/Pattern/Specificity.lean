import Mathlib.Data.Set.List
import Parley.Pattern.Specificity

/-!
# What the tokens of a pattern say about its place

Patterns of given words only make up the first band, those that use the star the last one, and all
others stand between them. Within a band it counts how many words are given, and how the tokens are
written one after the other. All of this can be read off the tokens.
-/
namespace Parley

/-- How a token is written in a pattern. -/
def Token.spelling : Token → String
  | .literal word => word
  | .wild .any => "*"
  | .wild .alpha => "_"
  | .wild .number => "#"
  | .alternation phrases => "(" ++ "|".intercalate (phrases.map (" ".intercalate ·)) ++ ")"
  | .optional phrases => "[" ++ "|".intercalate (phrases.map (" ".intercalate ·)) ++ "]"
  | .array name true => "(@" ++ name ++ ")"
  | .array name false => "@" ++ name

theorem Token.spelling_eq (token : Token) : token.spelling = token.text := by
  cases token with
  | wild kind => cases kind <;> rfl
  | array name captured => cases captured <;> rfl
  | _ => rfl

namespace Pattern

/-- The tokens as they are written, apart by spaces. -/
def spelling (p : Pattern) : String := " ".intercalate (p.tokens.map Token.spelling)

/-- The words that a pattern gives. -/
def givenWords (p : Pattern) : List String :=
  p.tokens.filterMap fun
    | .literal word => some word
    | _ => none

/-- The number of the band: two for a pattern with a star, zero for one of given words only, and
one for all others. -/
def bandNumber (p : Pattern) : Nat :=
  if .wild .any ∈ p.tokens then 2
  else if p.tokens = p.givenWords.map .literal then 0
  else 1

theorem spelling_eq (p : Pattern) : p.spelling = p.text := by
  rw [spelling, text, funext Token.spelling_eq]

theorem length_givenWords (p : Pattern) : p.givenWords.length = p.literalCount := by
  rw [givenWords, literalCount, List.length_filterMap_eq_countP]
  refine List.countP_congr fun token _ => ?_
  cases token <;> simp [Token.isLiteral]

theorem uses_wildAny_iff {p : Pattern} : p.uses .wildAny = true ↔ .wild .any ∈ p.tokens := by
  have hfeature (token : Token) : token.feature? = some .wildAny ↔ token = .wild .any := by
    cases token with
    | wild kind => cases kind <;> simp [Token.feature?]
    | _ => simp [Token.feature?]
  simp [uses, hfeature]

theorem all_isLiteral_iff {p : Pattern} :
    p.tokens.all Token.isLiteral = true ↔
      ∃ literals : List String, p.tokens = literals.map .literal := by
  constructor
  · intro hall
    have hliterals : p.tokens ∈ Set.range (List.map Token.literal) := by
      rw [Set.range_list_map]
      intro token htoken
      have hliteral := List.all_eq_true.mp hall token htoken
      cases token with
      | literal word => exact ⟨word, rfl⟩
      | _ => cases hliteral
    obtain ⟨literals, heq⟩ := hliterals
    exact ⟨literals, heq.symm⟩
  · rintro ⟨literals, heq⟩
    simp [heq, Token.isLiteral]

/-- A pattern of given words only gives all of its tokens. -/
theorem givenWords_of_tokens {p : Pattern} {literals : List String}
    (h : p.tokens = literals.map .literal) : p.givenWords = literals := by
  simp [givenWords, h, List.filterMap_map, Function.comp_def]

theorem bandNumber_eq (p : Pattern) : p.bandNumber = p.band.rank := by
  have hgiven : p.tokens = p.givenWords.map .literal ↔ p.tokens.all Token.isLiteral = true := by
    rw [all_isLiteral_iff]
    constructor
    · exact fun h => ⟨_, h⟩
    · rintro ⟨literals, heq⟩
      rw [givenWords_of_tokens heq, heq]
  rw [bandNumber, band]
  simp only [← uses_wildAny_iff, hgiven]
  split_ifs <;> rfl

/-- The first band is that of the patterns that ask for given words only. -/
theorem band_eq_atomic_iff {p : Pattern} :
    p.band = .atomic ↔ ∃ literals : List String, p.tokens = literals.map .literal := by
  rw [band, ← all_isLiteral_iff]
  constructor
  · intro h
    split_ifs at h with hwild hall
    exact hall
  · intro hall
    obtain ⟨literals, heq⟩ := all_isLiteral_iff.mp hall
    have hwild : p.uses .wildAny = false := by simp [uses, heq, Token.feature?]
    rw [hwild, hall]
    rfl

end Pattern
end Parley
