import Parley.Pattern.Reader
import Parley.Proofs.Alignment.Search
import Parley.Proofs.Message.Words

/-!
# Punctuation does not matter to plain patterns

A literal can spell either form of a word. If it is made of letters and numbers only, then it spells
the written form only where this is the bare form too. So a pattern of such literals finds in the
words of a message what it finds in their bare forms: at every point of the search the next token
has the same choices. What the words are written with besides makes no difference.
-/
namespace Parley

/-- A text of letters and numbers only, as the bare forms of words are. -/
def Word.IsBare (text : String) : Prop := ∀ c ∈ text.toList, Word.keeps c = true

instance (text : String) : Decidable (Word.IsBare text) :=
  decidable_of_iff (text.toList.all Word.keeps = true) List.all_eq_true

/-- The literals that a token compares with words, which for an array are those of its entries. -/
def Token.literals (arrays : Arrays) : Token → List String
  | .literal word => [word]
  | .wild _ => []
  | .alternation phrases => phrases.flatten
  | .optional phrases => phrases.flatten
  | .array name _ => ((arrays.get? name).getD []).flatten

/-- All literals that a pattern compares with words are bare. -/
def Pattern.Unpunctuated (arrays : Arrays) (p : Pattern) : Prop :=
  ∀ token ∈ p.tokens, ∀ literal ∈ token.literals arrays, Word.IsBare literal

instance (arrays : Arrays) (p : Pattern) : Decidable (p.Unpunctuated arrays) :=
  decidable_of_iff
    ((p.tokens.all fun token => (token.literals arrays).all (Word.IsBare ·)) = true)
    (by simp [Pattern.Unpunctuated])

/-- A bare literal that is the written form of a word is its bare form as well. -/
theorem Word.Formed.is_stripped {word : Word} (h : word.Formed) {literal : String}
    (hliteral : Word.IsBare literal) : word.stripped.is literal = word.is literal := by
  have hbare : word.raw = literal → word.bare = literal := by
    rintro rfl
    rw [← String.toList_inj, h.bare_eq, List.filter_eq_self]
    exact hliteral
  rw [Bool.eq_iff_iff]
  simpa [Word.is, Word.stripped] using hbare

/-- Captures are texts of bare forms. -/
theorem Alignment.Partial.captures_stripped (m : Partial) (words : List Word) :
    m.captures (words.map Word.stripped) = m.captures words := by
  refine List.map_congr_left fun span _ => ?_
  rw [Span.block, Span.block, ← List.map_drop, ← List.map_take, Message.bareText, List.map_map]
  rfl

section
variable {words : List Word} (hwords : ∀ word ∈ words, word.Formed)
include hwords

theorem Phrase.fits_stripped {phrase : Phrase} (h : ∀ literal ∈ phrase, Word.IsBare literal) :
    fits phrase (words.map Word.stripped) = fits phrase words := by
  induction phrase generalizing words with
  | nil => rfl
  | cons literal phrase ih =>
    obtain ⟨hliteral, hphrase⟩ := List.forall_mem_cons.mp h
    cases words with
    | nil => rfl
    | cons word words =>
      obtain ⟨hword, hrest⟩ := List.forall_mem_cons.mp hwords
      rw [List.map_cons, fits, fits, hword.is_stripped hliteral, ih hrest hphrase]

theorem Phrase.fitting_stripped {phrases : List Phrase}
    (h : ∀ literal ∈ phrases.flatten, Word.IsBare literal) :
    fitting phrases (words.map Word.stripped) = fitting phrases words := by
  have hfits : phrases.filter (fits · (words.map Word.stripped)) =
      phrases.filter (fits · words) := by
    refine List.filter_congr fun phrase hphrase => ?_
    exact fits_stripped hwords fun literal hliteral =>
      h literal (List.mem_flatten_of_mem hphrase hliteral)
  rw [fitting, fitting, hfits]

/-- A token of bare literals may take as many of the stripped words as of the words. -/
theorem Token.choices_stripped {arrays : Arrays} {token : Token}
    (h : ∀ literal ∈ token.literals arrays, Word.IsBare literal) :
    token.choices arrays (words.map Word.stripped) = token.choices arrays words := by
  cases token with
  | literal word =>
    have hphrase : ∀ literal ∈ [word], Word.IsBare literal := h
    rw [choices, choices, Phrase.fits_stripped hwords hphrase]
  | wild kind =>
    have hadmits : kind.admits ∘ Word.stripped = kind.admits := by
      funext word
      cases kind <;> rfl
    rw [choices, choices, List.takeWhile_map, hadmits, List.length_map]
  | alternation phrases => rw [choices, choices, Phrase.fitting_stripped hwords h]
  | optional phrases => rw [choices, choices, Phrase.fitting_stripped hwords h]
  | array name captured =>
    rw [choices, choices]
    cases hname : arrays.get? name with
    | none => rfl
    | some phrases =>
      rw [literals, hname] at h
      exact Phrase.fitting_stripped hwords h

namespace Alignment

theorem Partial.next_stripped {arrays : Arrays} {token : Token}
    (h : ∀ literal ∈ token.literals arrays, Word.IsBare literal) (m : Partial) :
    m.next arrays (words.map Word.stripped) token = m.next arrays words token := by
  rw [next, next, ← List.map_drop,
    Token.choices_stripped (fun word hword => hwords word (List.mem_of_mem_drop hword)) h]

/-- The search takes the same branches and passes the same points. -/
theorem search_stripped {arrays : Arrays} {tokens : List Token}
    (h : ∀ token ∈ tokens, ∀ literal ∈ token.literals arrays, Word.IsBare literal) :
    search arrays (words.map Word.stripped) tokens = search arrays words tokens := by
  induction tokens with
  | nil =>
    funext m visited
    rw [search, search, List.length_map]
  | cons token tokens ih =>
    obtain ⟨htoken, htokens⟩ := List.forall_mem_cons.mp h
    funext m visited
    rw [search, search, ih htokens, Partial.next_stripped hwords htoken]

end Alignment

theorem Pattern.align_stripped {arrays : Arrays} {p : Pattern} (h : p.Unpunctuated arrays) :
    p.align arrays (words.map Word.stripped) = p.align arrays words := by
  have hcaptures : (fun m : Alignment.Partial => m.captures (words.map Word.stripped)) =
      fun m => m.captures words := funext fun m => m.captures_stripped words
  rw [align, align, Alignment.run, Alignment.run, Alignment.search_stripped hwords h, hcaptures]

end

/-- A pattern all of whose literals are made of letters and numbers, those of the arrays that it
refers to included, captures the same from two messages, or matches neither of them, if their words
have the same bare forms. -/
theorem punctuation_does_not_matter {arrays : Arrays} {p : Pattern} {left right : String}
    (hp : p.Unpunctuated arrays)
    (hbare : (Message.read left).map Word.bare = (Message.read right).map Word.bare) :
    p.align arrays (Message.read left) = p.align arrays (Message.read right) := by
  have hstripped (words : List Word) :
      words.map Word.stripped = (words.map Word.bare).map fun bare => ⟨bare, bare⟩ := by
    rw [List.map_map]
    rfl
  calc p.align arrays (Message.read left)
      = p.align arrays ((Message.read left).map Word.stripped) :=
        (Pattern.align_stripped (fun _ => Message.formed_of_mem_read) hp).symm
    _ = p.align arrays ((Message.read right).map Word.stripped) := by
        rw [hstripped, hbare, ← hstripped]
    _ = p.align arrays (Message.read right) :=
        Pattern.align_stripped (fun _ => Message.formed_of_mem_read) hp

/-- A pattern with literals, groups, an array and a wildcard. -/
theorem punctuation_does_not_matter_painted :
    let arrays := Arrays.empty.define "color" ["red", "dark blue"]
    let p : Pattern := ⟨[.optional [["please"]], .literal "paint",
      .alternation [["the", "boat"], ["it"]], .array "color" true, .wild .any], 0⟩
    let left := "Paint (the) boat dark, 'blue' to-day!"
    let right := "paint the boat dark blue today"
    Pattern.read "[please] paint (the boat|it) (@color) *" = .ok p ∧ p.Unpunctuated arrays ∧
      (Message.read left).map Word.bare = (Message.read right).map Word.bare ∧
      p.align arrays (Message.read left) = p.align arrays (Message.read right) ∧
      p.align arrays (Message.read right) = some ["the boat", "dark blue", "today"] := by
  intro arrays p left right
  have hp : p.Unpunctuated arrays := by decide +kernel
  have hbare : (Message.read left).map Word.bare = (Message.read right).map Word.bare := by
    decide +kernel
  have halign : p.align arrays (Message.read right) = some ["the boat", "dark blue", "today"] := by
    rw [Pattern.align, Alignment.found_run]
    decide +kernel
  exact ⟨by decide +kernel, hp, hbare, punctuation_does_not_matter hp hbare, halign⟩

end Parley
