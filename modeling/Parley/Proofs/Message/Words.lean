import Parley.Proofs.Message.Separators

/-!
# The words of a message

Whatever the message, its words are in lower case and without separators, and their bare forms are
not empty. Words of this kind, written with spaces between them, are read as themselves. A word that
is written in its bare form is of this kind too, so the bare forms of words are read as words that
have no other form.
-/
namespace Parley
open Parley.Unicode

namespace Word

/-- The word in its bare form only. -/
def stripped (word : Word) : Word := ⟨word.bare, word.bare⟩

/-- What reading makes sure of about a word. -/
structure Formed (word : Word) : Prop where
  unseparated : ∀ c ∈ word.raw.toList, Message.isSeparator c = false
  small : ∀ c ∈ word.raw.toList, IsSmall c
  bare_eq : word.bare.toList = word.raw.toList.filter keeps
  bare_ne_nil : word.bare.toList ≠ []

theorem ofRun?_eq_some_iff {run : List Char} {word : Word} :
    ofRun? run = some word ↔
      run.filter keeps ≠ [] ∧ ⟨String.ofList run, String.ofList (run.filter keeps)⟩ = word := by
  simp [ofRun?]

theorem isAlphabetic_eq_false_of_isDigit {c : Char} (h : Decimal.isDigit c = true) :
    Unicode.isAlphabetic c = false := by
  have hdigit : within [(0x30, 0x39)] c.toNat = true := by
    simp only [Decimal.isDigit, Bool.and_eq_true, decide_eq_true_eq] at h
    have hfirst : 0x30 ≤ c.toNat := h.1
    have hlast : c.toNat ≤ 0x39 := h.2
    simp [within, hfirst, hlast]
  have hletter : tablesApart [(0x30, 0x39)] letterTable = true := by decide +kernel
  have hnumber : tablesApart [(0x30, 0x39)] letterNumberTable = true := by decide +kernel
  have hother : tablesApart [(0x30, 0x39)] otherAlphabeticTable = true := by decide +kernel
  rw [Unicode.isAlphabetic, isLetter, isLetterNumber, within_eq_false_of_apart hletter hdigit,
    within_eq_false_of_apart hnumber hdigit, within_eq_false_of_apart hother hdigit]
  rfl

namespace Formed
variable {word : Word} (h : word.Formed)
include h

theorem ofRun?_raw : ofRun? word.raw.toList = some word := by
  have hne := h.bare_ne_nil
  rw [h.bare_eq] at hne
  refine ofRun?_eq_some_iff.mpr ⟨hne, ?_⟩
  rw [← h.bare_eq, String.ofList_toList, String.ofList_toList]

theorem keeps_of_mem_bare {c : Char} (hc : c ∈ word.bare.toList) : keeps c = true := by
  rw [h.bare_eq] at hc
  exact (List.mem_filter.mp hc).2

theorem mem_raw_of_mem_bare {c : Char} (hc : c ∈ word.bare.toList) : c ∈ word.raw.toList := by
  rw [h.bare_eq] at hc
  exact (List.mem_filter.mp hc).1

theorem stripped : word.stripped.Formed where
  unseparated c hc := h.unseparated c (h.mem_raw_of_mem_bare hc)
  small c hc := h.small c (h.mem_raw_of_mem_bare hc)
  bare_eq := (List.filter_eq_self.mpr fun _ hc => h.keeps_of_mem_bare hc).symm
  bare_ne_nil := h.bare_ne_nil

/-- A word that is alphabetic and one that is numeric differ in every character. -/
theorem not_alphabetic_and_numeric : ¬ (word.isAlphabetic = true ∧ word.isNumeric = true) := by
  rintro ⟨halphabetic, hnumeric⟩
  obtain ⟨c, rest, hbare⟩ := List.exists_cons_of_ne_nil h.bare_ne_nil
  rw [isAlphabetic, hbare, List.all_cons, Bool.and_eq_true] at halphabetic
  rw [isNumeric, hbare, List.all_cons, Bool.and_eq_true] at hnumeric
  rw [isAlphabetic_eq_false_of_isDigit hnumeric.1] at halphabetic
  cases halphabetic.1

end Formed
end Word

namespace Message

theorem formed_of_mem_read {text : String} {word : Word} (h : word ∈ read text) : word.Formed := by
  rw [read, split, List.mem_filterMap] at h
  obtain ⟨run, hrun, hword⟩ := h
  obtain ⟨hne, rfl⟩ := Word.ofRun?_eq_some_iff.mp hword
  obtain ⟨hseparator, hsubset⟩ := Text.of_mem_pieces hrun
  refine ⟨?_, ?_, ?_, ?_⟩
  · rwa [String.toList_ofList]
  · rw [String.toList_ofList]
    exact fun c hc => isSmall_of_mem_lowercase (hsubset hc)
  · rw [String.toList_ofList, String.toList_ofList]
  · rwa [String.toList_ofList]

theorem bare_ne_empty {text : String} {word : Word} (h : word ∈ read text) : word.bare ≠ "" := by
  simpa using (formed_of_mem_read h).bare_ne_nil

/-- Runs with a space between them make the words that they make alone. -/
theorem split_intercalate {runs : List (List Char)}
    (h : ∀ run ∈ runs, ∀ c ∈ run, isSeparator c = false) :
    split ([' '].intercalate runs) = runs.filterMap Word.ofRun? := by
  have hrun {run : List Char} (hrun : ∀ c ∈ run, isSeparator c = false) :
      split run = [run].filterMap Word.ofRun? := by
    rw [split, Text.pieces_eq_splitOnP, List.splitOnP_eq_singleton hrun]
  induction runs with
  | nil => rfl
  | cons run rest ih =>
    obtain ⟨hfirst, hrest⟩ := List.forall_mem_cons.mp h
    cases rest with
    | nil => rw [List.intercalate_singleton, hrun hfirst]
    | cons next rest =>
      rw [List.intercalate_cons_cons, List.append_assoc, List.singleton_append,
        split_append_cons (by decide), hrun hfirst, ih hrest, ← List.filterMap_append,
        List.singleton_append]

/-- Words that are formed, written with spaces between them, are read as themselves. -/
theorem read_intercalate_raw {words : List Word} (h : ∀ word ∈ words, word.Formed) :
    read (" ".intercalate (words.map Word.raw)) = words := by
  have hmem {run : List Char} (hrun : run ∈ (words.map Word.raw).map String.toList) :
      ∃ word ∈ words, word.raw.toList = run := by
    simpa using hrun
  have hsmall : ∀ c ∈ [' '].intercalate ((words.map Word.raw).map String.toList), IsSmall c := by
    intro c hc
    obtain hspace | ⟨run, hrun, hc⟩ := Text.mem_intercalate hc
    · rw [List.mem_singleton.mp hspace]
      exact (isCaseless_of_isSeparator (by decide)).small
    · obtain ⟨word, hword, rfl⟩ := hmem hrun
      exact (h word hword).small c hc
  have hseparator : ∀ run ∈ (words.map Word.raw).map String.toList,
      ∀ c ∈ run, isSeparator c = false := by
    intro run hrun
    obtain ⟨word, hword, rfl⟩ := hmem hrun
    exact (h word hword).unseparated
  have htext : (" ".intercalate (words.map Word.raw)).toList =
      [' '].intercalate ((words.map Word.raw).map String.toList) := String.toList_intercalate
  rw [read, htext, lowercase_eq_self hsmall, split_intercalate hseparator, List.filterMap_map,
    List.filterMap_map]
  calc words.filterMap ((Word.ofRun? ∘ String.toList) ∘ Word.raw)
      = words.filterMap some := List.filterMap_congr fun word hword => (h word hword).ofRun?_raw
    _ = words := List.filterMap_some

theorem bareText_eq (block : List Word) :
    bareText block = " ".intercalate ((block.map Word.stripped).map Word.raw) := by
  rw [bareText, List.map_map]
  rfl

/-- The bare forms of words are read as words that have no other form. -/
theorem read_bareText {block : List Word} (h : ∀ word ∈ block, word.Formed) :
    read (bareText block) = block.map Word.stripped := by
  rw [bareText_eq]
  refine read_intercalate_raw (List.forall_mem_map.mpr fun word hword => ?_)
  exact (h word hword).stripped

end Message
end Parley
