import Parley.Proofs.Alignment.Search
import Parley.Proofs.Message.Words
import Parley.Proofs.Pattern.Grammar

/-!
# Patterns of given words

A text of words without any signs is read in two ways, as a pattern and as a message. As a pattern
it asks for its words in lower case and nothing else, as a message it has these same words, so it
matches itself. Patterns that ask for given words only match the messages that spell them word by
word.
-/
namespace Parley
open Parley.Unicode

/-- Brackets, braces, the star, and the separators of messages other than white space. -/
def signs : List Char := ['(', ')', '[', ']'] ++ ['\x7b', '\x7d', '*', ',', ';', '!', '?']

/-- A text of one or more words without signs. Each word has a letter or a number in lower case, and
none begins as a reference to an array does. -/
structure ExactPhrase (text : List Char) : Prop where
  unmarked : ∀ c ∈ signs, c ∉ text
  ne_nil : Text.words text ≠ []
  keeps : ∀ word ∈ Text.words text, ∃ c ∈ lowercase word, Word.keeps c = true
  at_sign : ∀ word ∈ Text.words text, word.head? ≠ some '@'

instance (text : List Char) : Decidable (ExactPhrase text) :=
  decidable_of_iff ((signs.all fun c => !text.contains c) = true ∧ Text.words text ≠ [] ∧
      ((Text.words text).all fun word => (lowercase word).any Word.keeps) = true ∧
      ((Text.words text).all fun word => word.head? != some '@') = true)
    ⟨fun h => ⟨by simpa using h.1, h.2.1, by simpa using h.2.2.1, by simpa using h.2.2.2⟩,
      fun h => ⟨by simpa using h.unmarked, h.ne_nil, by simpa using h.keeps,
        by simpa using h.at_sign⟩⟩

/-- The words of a text in lower case. -/
def loweredWords (text : String) : List String :=
  (Text.words (lowercase text.toList)).map String.ofList

/-- Without brackets a text is cut into its words. -/
theorem Lexeme.cut_words {text : List Char} (h : ∀ c ∈ text, ¬ IsBracket c) :
    Cut text ((Text.words text).map .word) := by
  induction text using Text.induction_on_words with
  | nil => exact .nil
  | blank c rest hc ih =>
    rw [Text.words_cons hc]
    exact .blank hc (ih (List.forall_mem_cons.mp h).2)
  | word word rest hword hrest ih =>
    obtain ⟨hbracket, hbracket'⟩ := List.forall_mem_append.mp h
    rw [hword.words_append hrest, List.map_cons]
    refine .word hword.ne_nil (fun c hc hends => ?_) (fun c hc => .inl (hrest c hc)) (ih hbracket')
    obtain hblank | hends := hends
    · rw [hword.visible c hc] at hblank
      cases hblank
    · exact hbracket c hc hends

namespace Message

/-- Pieces that are empty make no words. -/
theorem filterMap_ofRun?_pieces (text : List Char) :
    (Text.pieces isWhiteSpace text).filterMap Word.ofRun? =
      (Text.words text).filterMap Word.ofRun? := by
  rw [Text.words, List.filterMap_filter]
  refine congrArg (List.filterMap · _) (funext fun run => ?_)
  cases run <;> rfl

theorem map_raw_ofRun? {runs : List (List Char)}
    (h : ∀ run ∈ runs, ∃ c ∈ run, Word.keeps c = true) :
    (runs.filterMap Word.ofRun?).map Word.raw = runs.map String.ofList := by
  induction runs with
  | nil => rfl
  | cons run runs ih =>
    obtain ⟨⟨c, hc, hkeeps⟩, hruns⟩ := List.forall_mem_cons.mp h
    have hbare : run.filter Word.keeps ≠ [] :=
      List.ne_nil_of_mem (List.mem_filter.mpr ⟨hc, hkeeps⟩)
    have hword : Word.ofRun? run =
        some ⟨String.ofList run, String.ofList (run.filter Word.keeps)⟩ :=
      Word.ofRun?_eq_some_iff.mpr ⟨hbare, rfl⟩
    rw [List.filterMap_cons_some hword, List.map_cons, ih hruns, List.map_cons]

end Message

namespace ExactPhrase
variable {text : String} (h : ExactPhrase text.toList)
include h

/-- No sign comes from putting the text into lower case. -/
theorem not_mem_lowercase {c : Char} (hc : c ∈ signs) : c ∉ lowercase text.toList := by
  have hreserved : (signs.all fun c => decide (¬ Settled c)) = true := by decide +kernel
  have hc' : ¬ Settled c := of_decide_eq_true (List.all_eq_true.mp hreserved c hc)
  exact fun hmem => h.unmarked c hc (mem_of_mem_lowercase hc' hmem)

theorem isPlain {word : List Char} (hword : word ∈ Text.words (lowercase text.toList)) :
    IsPlain word := by
  have hstar : '*' ∉ word := fun hmem =>
    h.not_mem_lowercase (by decide) ((Text.of_mem_words hword).2 hmem)
  rw [Text.words_lowercase] at hword
  obtain ⟨source, hsource, rfl⟩ := List.mem_map.mp hword
  obtain ⟨c, hc, hkeeps⟩ := h.keeps source hsource
  have hsign (sign : Char) (hsign : Word.keeps sign = false) : lowercase source ≠ [sign] := by
    intro heq
    rw [heq, List.mem_singleton] at hc
    rw [hc, hsign] at hkeeps
    cases hkeeps
  refine ⟨hsign '_' (by decide +kernel), hsign '#' (by decide +kernel), hstar, fun hhead => ?_⟩
  exact h.at_sign source hsource (head?_eq_of_head?_lowercase (by decide +kernel) hhead)

theorem loweredWords_ne_nil : loweredWords text ≠ [] := by
  rw [loweredWords, Text.words_lowercase]
  simpa using h.ne_nil

/-- As a pattern the text asks for its words in lower case. -/
theorem read_eq : Pattern.read text = .ok ⟨(loweredWords text).map .literal, 0⟩ := by
  have hparts : Tag.Parts text.toList text.toList [] :=
    Tag.parts_self (h.unmarked _ (by decide)) (h.unmarked _ (by decide))
  have hbracket : ∀ c ∈ lowercase text.toList, ¬ IsBracket c := fun c hc hbracket =>
    h.not_mem_lowercase (List.mem_append_left _ hbracket) hc
  have hspelled : List.Forall₂ Token.Spelled ((Text.words (lowercase text.toList)).map .word)
      ((loweredWords text).map .literal) := by
    rw [loweredWords, List.map_map, List.forall₂_map_left_iff, List.forall₂_map_right_iff,
      List.forall₂_same]
    exact fun word hword => .literal (h.isPlain hword)
  have hne : (Text.words (lowercase text.toList)).map Lexeme.word ≠ [] := by
    simpa [loweredWords] using h.loweredWords_ne_nil
  exact Pattern.read_eq_ok_iff.mpr (.intro hparts .nil (Lexeme.cut_words hbracket) hspelled hne)

/-- As a message the text has its words in lower case. -/
theorem map_raw_read : (Message.read text).map Word.raw = loweredWords text := by
  have hseparates : ∀ c ∈ lowercase text.toList, Message.isSeparator c = isWhiteSpace c := by
    intro c hc
    have hsign (sign : Char) (hsign : sign ∈ signs) : (c == sign) = false := by
      refine beq_eq_false_iff_ne.mpr ?_
      rintro rfl
      exact h.not_mem_lowercase hsign hc
    rw [Message.isSeparator, hsign ',' (by decide), hsign ';' (by decide), hsign '!' (by decide),
      hsign '?' (by decide)]
    simp only [Bool.or_false]
  rw [Message.read, Message.split, Text.pieces_congr hseparates, Message.filterMap_ofRun?_pieces]
  refine Message.map_raw_ofRun? fun word hword => ?_
  rw [Text.words_lowercase] at hword
  obtain ⟨source, hsource, rfl⟩ := List.mem_map.mp hword
  exact h.keeps source hsource

/-- The message spells the pattern, word by word. -/
theorem spells : Phrase.Spells (loweredWords text) (Message.read text) := by
  rw [← h.map_raw_read, Phrase.Spells, List.forall₂_map_left_iff, List.forall₂_same]
  exact fun word _ => .inr rfl

end ExactPhrase

/-- A pattern of given words takes all words of a message exactly if the message spells them. -/
theorem Alignment.exists_full_literals_iff {arrays : Arrays} {literals : List String}
    {words : List Word} :
    (∃ shares, Full arrays (literals.map .literal) words shares) ↔
      Phrase.Spells literals words := by
  induction literals generalizing words with
  | nil =>
    simp only [List.map_nil, full_nil_iff]
    constructor
    · rintro ⟨_, rfl, _⟩
      exact .nil
    · intro h
      cases h
      exact ⟨[], rfl, rfl⟩
  | cons literal literals ih =>
    constructor
    · rintro ⟨shares, hfull⟩
      cases hfull with
      | @cons _ _ rest share shares htakes hrest =>
        obtain ⟨choice, block⟩ := share
        cases htakes with
        | literal hword => exact .cons hword (ih.mp ⟨shares, hrest⟩)
    · intro h
      cases h with
      | @cons _ word _ rest hword hrest =>
        obtain ⟨shares, hfull⟩ := ih.mpr hrest
        have htakes : (Token.literal literal).Takes arrays .word [word] := .literal hword
        exact ⟨_, @Full.cons arrays _ _ _ ⟨.word, [word]⟩ _ htakes hfull⟩

theorem Pattern.align_literals_iff {arrays : Arrays} {p : Pattern} {literals : List String}
    (hp : p.tokens = literals.map .literal) {words : List Word} :
    (∃ captures, p.align arrays words = some captures) ↔ Phrase.Spells literals words := by
  have hnone := @Alignment.align_eq_none_iff arrays words p
  rw [hp, Alignment.exists_full_literals_iff] at hnone
  rw [← Option.ne_none_iff_exists', ne_eq, hnone, not_not]

end Parley
