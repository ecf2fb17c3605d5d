import Parley.Proofs.Alignment.Search
import Parley.Proofs.Bot.Renumbering
import Parley.Proofs.Message.Words

/-!
# Reading again

What was read of a message can be written down and read again, and nothing is lost or gained:
written in the forms that they had, the words are the same again, and written bare they are read as
their bare forms. A match quotes the words that it captures in their bare forms, so a capture that
is taken up as a message has the words that it was made of.
-/
namespace Parley

/-- How a word is read again after it was written bare. -/
structure Word.Rereads (word again : Word) : Prop where
  raw : again.raw = word.bare
  bare : again.bare = word.bare
  alphabetic : again.isAlphabetic = word.isAlphabetic
  numeric : again.isNumeric = word.isNumeric

theorem Word.rereads_stripped (word : Word) : word.Rereads word.stripped := ⟨rfl, rfl, rfl, rfl⟩

namespace Message

theorem forall₂_rereads {block : List Word} (h : ∀ word ∈ block, word.Formed) :
    List.Forall₂ Word.Rereads block (read (bareText block)) := by
  rw [read_bareText h, List.forall₂_map_right_iff, List.forall₂_same]
  exact fun word _ => word.rereads_stripped

/-- A capture is made of consecutive words of a text, in their bare forms, and has these words when
it is read itself. -/
def Quotes (text capture : String) : Prop :=
  ∃ block, block <:+: read text ∧ capture = " ".intercalate (block.map Word.bare) ∧
    List.Forall₂ Word.Rereads block (read capture)

theorem quotes_bareText {text : String} {block : List Word} (h : block <:+: read text) :
    Quotes text (bareText block) :=
  ⟨block, h, rfl, forall₂_rereads fun _ hword => formed_of_mem_read (h.subset hword)⟩

end Message

namespace Alignment

theorem Span.block_infix (span : Span) (words : List Word) : span.block words <:+: words :=
  (List.take_prefix _ _).isInfix.trans (List.drop_suffix _ _).isInfix

/-- Whatever arrays there are, the captures of a pattern quote the text. -/
theorem quotes_of_align {arrays : Arrays} {p : Pattern} {text : String} {captures : List String}
    (h : p.align arrays (Message.read text) = some captures) :
    ∀ capture ∈ captures, Message.Quotes text capture := by
  obtain ⟨found, _, rfl⟩ := Option.map_eq_some_iff.mp h
  refine List.forall_mem_map.mpr fun span _ => ?_
  exact Message.quotes_bareText (span.block_infix _)

end Alignment

namespace Bot

/-- The captures of a match quote the message, and those of its condition the reply before. -/
theorem quotes_of_matchMessage {b : Bot} {topic text : String} {previous : Option String}
    {m : Match} (h : b.matchMessage topic text previous = .ok (some m)) :
    (∀ capture ∈ m.captures, Message.Quotes text capture) ∧
      ∀ capture ∈ m.previousCaptures, ∃ reply, previous = some reply ∧
        Message.Quotes reply capture := by
  cases hlisting : b.listing topic with
  | error error =>
    rw [matchMessage_of_error hlisting] at h
    cases h
  | ok listing =>
    rw [matchMessage_of_listing hlisting, Except.ok.injEq, Option.map_eq_some_iff] at h
    obtain ⟨hit, hhit, rfl⟩ := h
    obtain ⟨words, hwords, _, _, hentry⟩ | ⟨_, _, hentry⟩ := exists_entry_of_findHit? hhit
    · obtain ⟨reply, hreply, rfl⟩ := Option.map_eq_some_iff.mp hwords
      obtain ⟨_, _, _, _, hprevious, hcaptures, rfl⟩ := Hit.contextual?_eq_some_iff.mp hentry
      refine ⟨Alignment.quotes_of_align hcaptures, fun capture hcapture => ⟨reply, hreply, ?_⟩⟩
      exact Alignment.quotes_of_align hprevious capture hcapture
    · obtain ⟨_, hcaptures, rfl⟩ := Hit.plain?_eq_some_iff.mp hentry
      exact ⟨Alignment.quotes_of_align hcaptures, List.forall_mem_nil _⟩

/-- The words of a message are read again as they are from their written forms, and as their bare
forms from those. No bare form is empty, no written form has a separator in it, and no word is
alphabetic and numeric at once. All that a match in any bot captures, from the message and from the
reply before, consists of its own words when it is read as a message. -/
theorem rereading_changes_nothing (text : String) :
    let words := Message.read text
    Message.read (" ".intercalate (words.map Word.raw)) = words ∧
    List.Forall₂ Word.Rereads words (Message.read (" ".intercalate (words.map Word.bare))) ∧
    (∀ word ∈ words, word.bare ≠ "" ∧
      (∀ c ∈ word.raw.toList, Message.isSeparator c = false) ∧
      ¬ (word.isAlphabetic = true ∧ word.isNumeric = true)) ∧
    ∀ (b : Bot) (topic : String) (previous : Option String) (m : Match),
      b.matchMessage topic text previous = .ok (some m) →
        (∀ capture ∈ m.captures, Message.Quotes text capture) ∧
        ∀ capture ∈ m.previousCaptures, ∃ reply, previous = some reply ∧
          Message.Quotes reply capture := by
  intro words
  have hformed : ∀ word ∈ words, word.Formed := fun _ => Message.formed_of_mem_read
  refine ⟨Message.read_intercalate_raw hformed, Message.forall₂_rereads hformed, ?_, ?_⟩
  · intro word hword
    have h := hformed word hword
    exact ⟨Message.bare_ne_empty hword, h.unseparated, h.not_alphabetic_and_numeric⟩
  · exact fun b topic previous m => quotes_of_matchMessage

/-- A name with signs in it is captured without them, and has its two words when read again. -/
theorem rereading_changes_nothing_of_name :
    let text := "My name is O'Brien, Mac-Donald!"
    let b := (new .standard).run
      [.register "random" "my name is *" ["hi"] (some "who are *"), .sort]
    let m := b.spell 0 ⟨⟨0, 0⟩, ["obrien macdonald"], ["you"], true⟩
    (⟨"o'brien", "obrien"⟩ ∈ Message.read text ∧
        ∀ c ∈ "o'brien".toList, Message.isSeparator c = false) ∧
      b.matchMessage "random" text (some "Who are you?") = .ok (some m) ∧
      Message.Quotes text "obrien macdonald" ∧ Message.Quotes "Who are you?" "you" ∧
      Message.read "obrien macdonald" = [⟨"obrien", "obrien"⟩, ⟨"macdonald", "macdonald"⟩] := by
  intro text b m
  have hfind : b.graph.find? "random" = some 0 := by decide +kernel
  have hsorted : (b.graph.topic 0).sorted = some ⟨[], [⟨0, 0⟩]⟩ := by decide +kernel
  have hcondition : (b.graph.trigger 0).previous =
      some ⟨[.literal "who", .literal "are", .wild .any], 0⟩ := by decide +kernel
  have hprevious : Pattern.align b.arrays ⟨[.literal "who", .literal "are", .wild .any], 0⟩
      (Message.read "Who are you?") = some ["you"] := by
    rw [Pattern.align, Alignment.found_run]
    decide +kernel
  have halign : (b.graph.trigger 0).pattern.align b.arrays (Message.read text) =
      some ["obrien macdonald"] := by
    rw [Pattern.align, Alignment.found_run]
    decide +kernel
  have hmatch := matchMessage_of_contextual hfind hsorted rfl hcondition hprevious halign
  have hword : ⟨"o'brien", "obrien"⟩ ∈ Message.read text := by decide +kernel
  obtain ⟨_, _, hwords, hcaptures⟩ := rereading_changes_nothing text
  obtain ⟨hquotes, hreply⟩ := hcaptures b "random" (some "Who are you?") m hmatch
  obtain ⟨reply, hsome, hquoted⟩ := hreply "you" (by decide +kernel)
  obtain rfl := Option.some.inj hsome
  exact ⟨⟨hword, (hwords _ hword).2.1⟩, hmatch, hquotes _ (by decide +kernel), hquoted,
    by decide +kernel⟩

end Bot
end Parley
