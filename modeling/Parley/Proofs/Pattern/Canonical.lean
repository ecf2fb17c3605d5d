import Parley.Alignment.Search
import Parley.Proofs.Pattern.Grammar
import Parley.Proofs.Unicode.SmallLetters

/-!
# The text of a pattern

The text that a pattern writes for itself is one by the grammar of patterns, and it is read as the
same tokens, so patterns that were read have the same tokens if they have the same text. Each token
writes a lexeme, which is the word or the group that it was read from; only a group may have other
spaces than before.
-/
namespace Parley
open Parley.Unicode

namespace Lexeme

/-- The text of a lexeme, a group with its brackets. -/
def text : Lexeme → List Char
  | word text => text
  | group bracket content => bracket.opening :: (content ++ [bracket.closing])

/-- A lexeme that is found whole where it stands between spaces. -/
def Whole : Lexeme → Prop
  | word text => text ≠ [] ∧ ∀ c ∈ text, ¬ EndsWord c
  | group _ content => ∀ c ∈ content, ¬ IsBracket c

theorem Cut.whole {text : List Char} {lexemes : List Lexeme} (h : Cut text lexemes) :
    ∀ lexeme ∈ lexemes, lexeme.Whole ∧ lexeme.text ⊆ text := by
  induction h with
  | nil => simp
  | blank _ _ ih =>
    intro lexeme hmem
    exact ⟨(ih lexeme hmem).1, List.subset_cons_of_subset _ (ih lexeme hmem).2⟩
  | @group bracket content rest lexemes hcontent _ ih =>
    have hsplit : bracket.opening :: (content ++ bracket.closing :: rest) =
        (Lexeme.group bracket content).text ++ rest := by simp [Lexeme.text]
    rw [hsplit]
    refine List.forall_mem_cons.mpr ⟨⟨hcontent, List.subset_append_left _ _⟩, fun lexeme hmem => ?_⟩
    exact ⟨(ih lexeme hmem).1, List.subset_append_of_subset_right _ (ih lexeme hmem).2⟩
  | @word word rest lexemes hne hword _ _ ih =>
    refine List.forall_mem_cons.mpr
      ⟨⟨⟨hne, hword⟩, List.subset_append_left _ _⟩, fun lexeme hmem => ?_⟩
    exact ⟨(ih lexeme hmem).1, List.subset_append_of_subset_right _ (ih lexeme hmem).2⟩

theorem Whole.cut_append {lexeme : Lexeme} (h : lexeme.Whole) {rest : List Char}
    {lexemes : List Lexeme} (hrest : ∀ c ∈ rest.head?, EndsWord c) (hcut : Cut rest lexemes) :
    Cut (lexeme.text ++ rest) (lexeme :: lexemes) := by
  cases lexeme with
  | word text => exact .word h.1 h.2 hrest hcut
  | group bracket content =>
    have hgroup : Cut (bracket.opening :: (content ++ bracket.closing :: rest)) _ := .group h hcut
    simpa [text] using hgroup

/-- Between spaces whole lexemes are found as they are. -/
theorem cut_intercalate {lexemes : List Lexeme} (h : ∀ lexeme ∈ lexemes, lexeme.Whole) :
    Cut ([' '].intercalate (lexemes.map text)) lexemes := by
  induction lexemes with
  | nil => exact .nil
  | cons lexeme rest ih =>
    obtain ⟨hlexeme, hrest⟩ := List.forall_mem_cons.mp h
    have hcut := ih hrest
    cases rest with
    | nil =>
      have hlast : Cut (lexeme.text ++ []) [lexeme] := hlexeme.cut_append (by simp) .nil
      simpa using hlast
    | cons next rest =>
      have hblank := Cut.blank (c := ' ') (by decide) hcut
      have hspace : EndsWord ' ' := .inl (by decide)
      simpa [List.intercalate_cons_cons] using hlexeme.cut_append (by simpa using hspace) hblank

/-- A group is written again with other spaces and bars, a word as it is. -/
inductive Rewritten : Lexeme → Lexeme → Prop
  | word {text : List Char} : Rewritten (.word text) (.word text)
  | group {bracket : Bracket} {content content' : List Char} :
    content' ⊆ ' ' :: '|' :: content →
      Rewritten (.group bracket content) (.group bracket content')

theorem Rewritten.whole {lexeme lexeme' : Lexeme} (h : Rewritten lexeme lexeme')
    (hwhole : lexeme.Whole) : lexeme'.Whole := by
  cases h with
  | word => exact hwhole
  | group hsubset =>
    intro c hc
    obtain rfl | hc := List.mem_cons.mp (hsubset hc)
    · simp [IsBracket]
    · obtain rfl | hc := List.mem_cons.mp hc
      · simp [IsBracket]
      · exact hwhole c hc

theorem Rewritten.subset {lexeme lexeme' : Lexeme} (h : Rewritten lexeme lexeme') :
    lexeme'.text ⊆ ' ' :: '|' :: lexeme.text := by
  cases h with
  | word => exact List.subset_cons_of_subset _ (List.subset_cons_of_subset _ (List.Subset.refl _))
  | group hsubset =>
    refine List.cons_subset.mpr ⟨by simp [text], List.append_subset.mpr ⟨?_, by simp [text]⟩⟩
    refine List.Subset.trans hsubset (List.cons_subset_cons _ (List.cons_subset_cons _ ?_))
    exact List.subset_cons_of_subset _ (List.subset_append_left _ _)

end Lexeme

/-- A phrase of plain words that a bar could not be part of. -/
structure Phrase.Clean (phrase : Phrase) : Prop where
  ne_nil : phrase ≠ []
  solid : ∀ word ∈ phrase, Text.Solid word.toList
  plain : ∀ word ∈ phrase, IsPlain word.toList
  bar : ∀ word ∈ phrase, '|' ∉ word.toList

namespace Phrase

def letters (phrase : Phrase) : List Char := [' '].intercalate (phrase.map String.toList)

theorem toList_phrasesText (phrases : List Phrase) :
    (phrasesText phrases).toList = ['|'].intercalate (phrases.map letters) := by
  have hphrase (phrase : Phrase) : (" ".intercalate phrase).toList = phrase.letters :=
    String.toList_intercalate
  rw [phrasesText, String.toList_intercalate, List.map_map]
  exact congrArg ['|'].intercalate (List.map_congr_left fun phrase _ => hphrase phrase)

theorem Reads.clean {text : List Char} {phrase : Phrase} (h : Reads text phrase)
    (hbar : '|' ∉ text) : phrase.Clean := by
  obtain ⟨rfl, hne, hplain⟩ := h
  refine ⟨by simpa using hne, ?_, ?_, ?_⟩
  all_goals
    simp only [List.forall_mem_map, String.toList_ofList]
    intro word hword
  · exact (Text.of_mem_words hword).1
  · exact hplain word hword
  · exact fun hmem => hbar ((Text.of_mem_words hword).2 hmem)

theorem Reads.subset {text : List Char} {phrase : Phrase} (h : Reads text phrase) :
    phrase.letters ⊆ ' ' :: text := by
  obtain ⟨rfl, _, _⟩ := h
  intro c hc
  obtain hc | ⟨word, hword, hc⟩ := Text.mem_intercalate hc
  · simp [List.mem_singleton.mp hc]
  · simp only [List.map_map, List.mem_map] at hword
    obtain ⟨word', hword', rfl⟩ := hword
    rw [Function.comp_apply, String.toList_ofList] at hc
    exact List.mem_cons_of_mem _ ((Text.of_mem_words hword').2 hc)

theorem Clean.reads {phrase : Phrase} (h : phrase.Clean) : Reads phrase.letters phrase := by
  have hwords : Text.words phrase.letters = phrase.map String.toList :=
    Text.words_intercalate (by simpa using h.solid)
  refine ⟨?_, ?_, ?_⟩
  · simp [hwords, Function.comp_def]
  · simpa [hwords] using h.ne_nil
  · simpa [hwords] using h.plain

theorem Clean.framed {phrase : Phrase} (h : phrase.Clean) : Text.Framed phrase.letters := by
  refine Text.framed_intercalate (by simpa using h.ne_nil) ?_
  simpa using fun word hword => (h.solid word hword).framed

theorem Clean.bar_not_mem {phrase : Phrase} (h : phrase.Clean) : '|' ∉ phrase.letters := by
  intro hc
  obtain hc | ⟨word, hword, hc⟩ := Text.mem_intercalate hc
  · simp at hc
  · obtain ⟨word', hword', rfl⟩ := List.mem_map.mp hword
    exact h.bar word' hword' hc

theorem ReadsAll.clean {content : List Char} {phrases : List Phrase}
    (h : ReadsAll content phrases) :
    phrases ≠ [] ∧ ∀ phrase ∈ phrases, phrase.Clean ∧ phrase.letters ⊆ ' ' :: content := by
  rw [ReadsAll, ← Text.pieces_eq_splitOn] at h
  constructor
  · rintro rfl
    exact Text.pieces_ne_nil _ _ (List.forall₂_nil_right_iff.mp h)
  · refine forall_of_forall₂ h fun piece hpiece phrase hreads => ?_
    obtain ⟨hbar, hsubset⟩ := Text.of_mem_pieces hpiece
    refine ⟨hreads.clean fun hmem => absurd (hbar '|' hmem) (by decide), ?_⟩
    exact List.Subset.trans hreads.subset (List.cons_subset_cons _ hsubset)

/-- Clean phrases are read from their text as what they are. -/
theorem readsAll_phrasesText {phrases : List Phrase} (hne : phrases ≠ [])
    (h : ∀ phrase ∈ phrases, phrase.Clean) : ReadsAll (phrasesText phrases).toList phrases := by
  have hbar : ∀ text ∈ phrases.map letters, '|' ∉ text := by
    simpa using fun phrase hphrase => (h phrase hphrase).bar_not_mem
  rw [ReadsAll, toList_phrasesText, List.splitOn_intercalate _ hbar (by simpa using hne),
    List.forall₂_map_left_iff, List.forall₂_same]
  exact fun phrase hphrase => (h phrase hphrase).reads

theorem trim_phrasesText {phrases : List Phrase} (hne : phrases ≠ [])
    (h : ∀ phrase ∈ phrases, phrase.Clean) :
    Text.trim (phrasesText phrases).toList = (phrasesText phrases).toList := by
  rw [toList_phrasesText]
  refine (Text.framed_intercalate (by simpa using hne) ?_).trim_eq
  simpa using fun phrase hphrase => (h phrase hphrase).framed

/-- What was read from the content of a group is read from its own text. -/
theorem ReadsAll.again {content : List Char} {phrases : List Phrase}
    (h : ReadsAll (Text.trim content) phrases) :
    ReadsAll (Text.trim (phrasesText phrases).toList) phrases ∧
      (phrasesText phrases).toList ⊆ ' ' :: '|' :: content := by
  obtain ⟨hne, hall⟩ := h.clean
  have hclean : ∀ phrase ∈ phrases, phrase.Clean := fun phrase hphrase => (hall phrase hphrase).1
  constructor
  · rw [trim_phrasesText hne hclean]
    exact readsAll_phrasesText hne hclean
  · intro c hc
    rw [toList_phrasesText] at hc
    obtain hc | ⟨text, htext, hc⟩ := Text.mem_intercalate hc
    · simp only [List.mem_singleton] at hc
      simp [hc]
    · obtain ⟨phrase, hphrase, rfl⟩ := List.mem_map.mp htext
      obtain rfl | hc := List.mem_cons.mp ((hall phrase hphrase).2 hc)
      · simp
      · simp [Text.trim_subset content hc]

end Phrase

namespace Token

/-- The lexeme that a token writes. -/
def lexeme : Token → Lexeme
  | literal word => .word word.toList
  | wild kind => .word kind.symbol.toList
  | alternation phrases => .group .round (phrasesText phrases).toList
  | optional phrases => .group .square (phrasesText phrases).toList
  | array name true => .group .round ('@' :: name.toList)
  | array name false => .word ('@' :: name.toList)

theorem toList_text (token : Token) : token.text.toList = token.lexeme.text := by
  cases token with
  | literal word => rfl
  | wild kind => rfl
  | alternation phrases => simp [text, lexeme, Lexeme.text, Bracket.opening, Bracket.closing]
  | optional phrases => simp [text, lexeme, Lexeme.text, Bracket.opening, Bracket.closing]
  | array name captured =>
    cases captured with
    | true => simp [text, lexeme, Lexeme.text, Bracket.opening, Bracket.closing]
    | false => simp [text, lexeme, Lexeme.text]

theorem isWhiteSpace_of_isNameChar {c : Char} (h : isNameChar c = true) :
    isWhiteSpace c = false := by
  simp only [isNameChar, Bool.or_eq_true, Bool.and_eq_true, decide_eq_true_eq, beq_iff_eq] at h
  obtain (⟨hlow, hhigh⟩ | ⟨hlow, hhigh⟩) | rfl := h
  · exact Text.isWhiteSpace_eq_false (Nat.lt_of_lt_of_le (by decide) hlow)
      (Nat.lt_of_le_of_lt hhigh (by decide))
  · exact Text.isWhiteSpace_eq_false (Nat.lt_of_lt_of_le (by decide) hlow)
      (Nat.lt_of_le_of_lt hhigh (by decide))
  · decide

theorem solid_at {name : List Char} (h : IsName name) : Text.Solid ('@' :: name) :=
  ⟨by simp, List.forall_mem_cons.mpr
    ⟨by decide, fun c hc => isWhiteSpace_of_isNameChar (h.2 c hc)⟩⟩

/-- A token is spelled by what it writes, and that is what it was spelled by, rewritten. -/
theorem Spelled.again {lexeme : Lexeme} {token : Token} (h : Spelled lexeme token) :
    Spelled token.lexeme token ∧ Lexeme.Rewritten lexeme token.lexeme := by
  cases h with
  | any => exact ⟨.any, .word⟩
  | alpha => exact ⟨.alpha, .word⟩
  | number => exact ⟨.number, .word⟩
  | array hname =>
    rw [Token.lexeme, String.toList_ofList]
    exact ⟨.array hname, .word⟩
  | literal hplain =>
    rw [Token.lexeme, String.toList_ofList]
    exact ⟨.literal hplain, .word⟩
  | @captured content name htrim hname =>
    rw [Token.lexeme, String.toList_ofList]
    refine ⟨.captured (solid_at hname).framed.trim_eq hname, .group ?_⟩
    rw [← htrim]
    exact List.subset_cons_of_subset _ (List.subset_cons_of_subset _ (Text.trim_subset content))
  | alternation hreads => exact ⟨.alternation hreads.again.1, .group hreads.again.2⟩
  | optional hreads => exact ⟨.optional hreads.again.1, .group hreads.again.2⟩

end Token

namespace Pattern

theorem toList_text (p : Pattern) :
    p.text.toList = [' '].intercalate ((p.tokens.map Token.lexeme).map Lexeme.text) := by
  simp [text, Function.comp_def, Token.toList_text]

theorem toList_text_subset {p : Pattern} {body : List Char}
    (h : ∀ token ∈ p.tokens, token.lexeme.text ⊆ ' ' :: '|' :: body) :
    p.text.toList ⊆ ' ' :: '|' :: body := by
  intro c hc
  rw [toList_text] at hc
  obtain hc | ⟨piece, hpiece, hc⟩ := Text.mem_intercalate hc
  · simp [List.mem_singleton.mp hc]
  · simp only [List.map_map, List.mem_map, Function.comp_apply] at hpiece
    obtain ⟨token, htoken, rfl⟩ := hpiece
    exact h token htoken hc

section Body
variable {text body : List Char} (h : text ⊆ ' ' :: '|' :: lowercase body)
include h

theorem lowercase_of_subset : lowercase text = text := by
  refine lowercase_eq_self fun c hc => ?_
  obtain rfl | hc := List.mem_cons.mp (h hc)
  · exact ⟨by decide, by decide⟩
  · obtain rfl | hc := List.mem_cons.mp hc
    · exact ⟨by decide, by decide⟩
    · exact isSmall_of_mem_lowercase hc

/-- No brace comes from putting a body without braces into lower case. -/
theorem parts_of_subset (hbody : '\x7b' ∉ body ∧ '\x7d' ∉ body) : Tag.Parts text text [] := by
  have hbrace : ∀ c, c ∉ body → ¬ Settled c → c ≠ ' ' → c ≠ '|' → c ∉ text := by
    intro c hnot hsettled hspace hbar hc
    obtain hc | hc | hc : c = ' ' ∨ c = '|' ∨ c ∈ lowercase body := by simpa using h hc
    · exact hspace hc
    · exact hbar hc
    · exact hnot (mem_of_mem_lowercase hsettled hc)
  exact Tag.parts_self (hbrace _ hbody.1 (by decide +kernel) (by decide) (by decide))
    (hbrace _ hbody.2 (by decide +kernel) (by decide) (by decide))

end Body

/-- A pattern that some text writes is written by its own text, without a weight. -/
theorem Written.again {text : List Char} {p : Pattern} (h : Written text p) :
    Written p.text.toList ⟨p.tokens, 0⟩ := by
  obtain @⟨body, tags, weights, lexemes, tokens, hparts, _, hcut, hspelled, hne⟩ := h
  generalize hp : (⟨tokens, weights.getLast?.getD 0⟩ : Pattern) = p
  obtain rfl : p.tokens = tokens := by rw [← hp]
  have hlexemes : ∀ token ∈ p.tokens, Token.Spelled token.lexeme token ∧ token.lexeme.Whole ∧
      token.lexeme.text ⊆ ' ' :: '|' :: lowercase body := by
    refine forall_of_forall₂ hspelled fun lexeme hlexeme token htoken => ?_
    obtain ⟨hwhole, hsubset⟩ := hcut.whole lexeme hlexeme
    obtain ⟨hspelled, hrewritten⟩ := htoken.again
    refine ⟨hspelled, hrewritten.whole hwhole, List.Subset.trans hrewritten.subset ?_⟩
    exact List.cons_subset_cons _ (List.cons_subset_cons _ hsubset)
  have hsubset := toList_text_subset fun token htoken => (hlexemes token htoken).2.2
  have hcut' : Lexeme.Cut (lowercase p.text.toList) (p.tokens.map Token.lexeme) := by
    rw [lowercase_of_subset hsubset, toList_text]
    refine Lexeme.cut_intercalate ?_
    simpa using fun token htoken => (hlexemes token htoken).2.1
  have hspelled' : List.Forall₂ Token.Spelled (p.tokens.map Token.lexeme) p.tokens := by
    rw [List.forall₂_map_left_iff, List.forall₂_same]
    exact fun token htoken => (hlexemes token htoken).1
  have hne' : p.tokens.map Token.lexeme ≠ [] := by
    rw [ne_eq, List.map_eq_nil_iff]
    intro htokens
    rw [htokens, List.forall₂_nil_right_iff] at hspelled
    exact hne hspelled
  exact .intro (parts_of_subset hsubset hparts.not_mem_body) .nil hcut' hspelled' hne'

/-- The text of a pattern that was read is read as the same tokens, without a weight. -/
theorem read_text {text : String} {p : Pattern} (h : read text = .ok p) :
    read p.text = .ok ⟨p.tokens, 0⟩ :=
  read_eq_ok_iff.mpr (read_eq_ok_iff.mp h).again

example : (read "HEY[ a|big  b ]{weight=3}(@Names)").toOption.map (fun p => (p.text, p.weight)) =
    some ("hey [a|big b] (@names)", 3) := by decide +kernel

/-- Patterns of the same tokens, which align alike with every message. -/
structure Alike (p q : Pattern) : Prop where
  tokens : p.tokens = q.tokens
  align : ∀ arrays words, p.align arrays words = q.align arrays words

theorem alike_of_tokens_eq {p q : Pattern} (h : p.tokens = q.tokens) : p.Alike q :=
  ⟨h, fun arrays words => by rw [align, align, Alignment.run, Alignment.run, h]⟩

/-- Patterns that were read are alike if they have the same text. -/
theorem alike_of_text_eq {text text' : String} {p q : Pattern} (hp : read text = .ok p)
    (hq : read text' = .ok q) (h : p.text = q.text) : p.Alike q := by
  have hread := read_text hp
  rw [h, read_text hq, Except.ok.injEq, Pattern.mk.injEq] at hread
  exact alike_of_tokens_eq hread.1.symm

end Pattern
end Parley
