import Parley.Proofs.Alignment.Search
import Parley.Proofs.Message.Words
import Parley.Proofs.Pattern.Grammar

/-!
# What an alignment captures

While an alignment passes the tokens of a pattern one by one, it holds one block of words for each
token that captures. The blocks lie behind its position, in the order of the tokens and apart from
each other. No block is empty where phrases have words: then only an optional group may take
nothing, and such a group does not capture.
-/
namespace Parley

namespace Phrase

/-- Phrases that have words, each of them. -/
def Worded (phrases : List Phrase) : Prop := ∀ phrase ∈ phrases, phrase ≠ []

theorem Spells.block_ne_nil {phrases : List Phrase} {phrase : Phrase} {i : Nat} {block : List Word}
    (h : Spells phrase block) (hget : phrases[i]? = some phrase) (hworded : Worded phrases) :
    block ≠ [] := by
  have hne : phrase ≠ [] := hworded phrase (List.mem_of_getElem? hget)
  have hlength := h.length_eq
  rw [← List.length_pos_iff] at hne ⊢
  omega

end Phrase

/-- The alternatives among which a token captures have words. -/
def Token.Worded : Token → Prop
  | .alternation phrases => Phrase.Worded phrases
  | _ => True

/-- The entries of all arrays have words. -/
def Arrays.Worded (arrays : Arrays) : Prop := ∀ row ∈ arrays.rows, Phrase.Worded row.2

theorem Arrays.Worded.get? {arrays : Arrays} (h : arrays.Worded) {name : String}
    {phrases : List Phrase} (hget : arrays.get? name = some phrases) : Phrase.Worded phrases := by
  obtain ⟨before, after, hrows, _⟩ := List.lookup_eq_some_iff.mp hget
  exact h (name, phrases) (by simp [hrows])

/-- A token that captures takes at least one word. -/
theorem Token.Takes.block_ne_nil {arrays : Arrays} {token : Token} {choice : Choice}
    {block : List Word} (h : token.Takes arrays choice block) (hcaptures : token.captures = true)
    (htoken : token.Worded) (harrays : arrays.Worded) : block ≠ [] := by
  cases h with
  | literal _ => cases hcaptures
  | wild hne _ => exact hne
  | alternation hget hspells => exact hspells.block_ne_nil hget htoken
  | optional _ _ => cases hcaptures
  | nothing => cases hcaptures
  | array hname hget hspells => exact hspells.block_ne_nil hget (harrays.get? hname)

theorem Token.Takes.admits {arrays : Arrays} {kind : WildKind} {choice : Choice}
    {block : List Word} (h : (Token.wild kind).Takes arrays choice block) :
    ∀ word ∈ block, kind.admits word = true := by
  cases h with
  | wild _ hall => exact fun word hword => WildKind.admits_iff.mpr (hall word hword)

namespace Alignment

namespace Span

/-- The place after the last word of a block. -/
def stop (span : Span) : Nat := span.start + span.length

theorem length_block {span : Span} {words : List Word} (h : span.stop ≤ words.length) :
    (span.block words).length = span.length := by
  rw [stop] at h
  rw [block, List.length_take, List.length_drop]
  omega

/-- The text of a block: its bare words, apart by spaces. -/
def text (words : List Word) (span : Span) : String :=
  " ".intercalate ((span.block words).map Word.bare)

end Span

variable {arrays : Arrays} {words : List Word} {passed : List Token} {m found : Partial}

/-- A partial alignment has passed these tokens: for each of them that captures it holds a block
that the token may take, the latest first, behind its position and apart from each other. -/
structure Records (arrays : Arrays) (words : List Word) (passed : List Token) (m : Partial) :
    Prop where
  position_le : m.position ≤ words.length
  behind : ∀ span ∈ m.spans, span.stop ≤ m.position
  apart : m.spans.Pairwise fun later earlier => earlier.stop ≤ later.start
  taken : List.Forall₂ (fun token span => ∃ choice, token.Takes arrays choice (span.block words))
    (passed.filter Token.captures) m.spans.reverse

theorem records_start (arrays : Arrays) (words : List Word) : Records arrays words [] .start where
  position_le := Nat.zero_le _
  behind := by simp [Partial.start]
  apart := .nil
  taken := .nil

/-- Passing one more token keeps what is held, and adds a block if the token captures. -/
theorem Records.take {token : Token} {choice : Choice} {n : Nat}
    (h : Records arrays words passed m)
    (hoption : (choice, n) ∈ token.options arrays (words.drop m.position)) :
    Records arrays words (passed ++ [token]) (m.take token n) := by
  have hle := position_take_le h.position_le hoption
  have hbehind : ∀ span ∈ m.spans, span.stop ≤ (m.take token n).position :=
    fun span hspan => Nat.le_add_right_of_le (h.behind span hspan)
  by_cases hcaptures : token.captures = true
  · have hspans : (m.take token n).spans = ⟨m.position, n⟩ :: m.spans := by
      simp [Partial.take, hcaptures]
    obtain ⟨_, htakes⟩ := (Token.mem_options_iff arrays token _ choice n).mp hoption
    have hlast : List.Forall₂ (fun (token : Token) (span : Span) => ∃ choice,
        token.Takes arrays choice (span.block words)) [token] [⟨m.position, n⟩] :=
      .cons ⟨choice, htakes⟩ .nil
    refine ⟨hle, ?_, ?_, ?_⟩
    · rw [hspans, List.forall_mem_cons]
      exact ⟨Nat.le_refl _, hbehind⟩
    · rw [hspans, List.pairwise_cons]
      exact ⟨h.behind, h.apart⟩
    · rw [hspans, List.reverse_cons, List.filter_append, List.filter_cons_of_pos hcaptures]
      exact List.rel_append h.taken hlast
  · have hspans : (m.take token n).spans = m.spans := by simp [Partial.take, hcaptures]
    refine ⟨hle, ?_, ?_, ?_⟩
    · rwa [hspans]
    · rw [hspans]
      exact h.apart
    · rw [hspans, List.filter_append, List.filter_cons_of_neg hcaptures, List.filter_nil,
        List.append_nil]
      exact h.taken

/-- What an exploration finds has passed all tokens. -/
theorem Records.explore {tokens : List Token} (h : Records arrays words passed m)
    (hfound : explore arrays words tokens m = some found) :
    Records arrays words (passed ++ tokens) found := by
  induction tokens generalizing passed m with
  | nil =>
    obtain ⟨_, rfl⟩ : m.position = words.length ∧ m = found := by
      simpa [Alignment.explore] using hfound
    rwa [List.append_nil]
  | cons token tokens ih =>
    rw [Alignment.explore, next_eq_map_options, List.findSome?_map] at hfound
    obtain ⟨⟨choice, n⟩, hoption, hrest⟩ := List.exists_of_findSome?_eq_some hfound
    have hrecords := ih (h.take hoption) hrest
    rwa [List.append_assoc] at hrecords

theorem exists_records_of_align {pattern : Pattern} {captures : List String}
    (h : pattern.align arrays words = some captures) :
    ∃ found, Records arrays words pattern.tokens found ∧ captures = found.captures words := by
  rw [Pattern.align, found_run, Option.map_eq_some_iff] at h
  obtain ⟨found, hfound, rfl⟩ := h
  exact ⟨found, (records_start arrays words).explore hfound, rfl⟩

end Alignment

namespace Message

theorem bareText_ne_empty {block : List Word} (hne : block ≠ [])
    (hwords : ∀ word ∈ block, word.bare ≠ "") : bareText block ≠ "" := by
  obtain ⟨word, rest, rfl⟩ := List.exists_cons_of_ne_nil hne
  have hword := hwords word List.mem_cons_self
  rw [bareText, ne_eq, ← String.toList_inj, String.toList_intercalate]
  cases rest with
  | nil => simpa using hword
  | cons next rest => simp [List.intercalate_cons_cons]

end Message

/-- Groups are read with phrases that have words. -/
theorem Token.Spelled.worded {lexeme : Lexeme} {token : Token} (h : Token.Spelled lexeme token) :
    token.Worded := by
  cases h with
  | alternation hreads =>
    refine forall_of_forall₂ hreads fun text _ phrase hphrase => ?_
    rw [hphrase.words]
    simpa using hphrase.ne_nil
  | any | alpha | number | array _ | literal _ | captured _ _ | optional _ => trivial

theorem Pattern.worded_of_read {text : String} {pattern : Pattern}
    (h : Pattern.read text = .ok pattern) : ∀ token ∈ pattern.tokens, token.Worded := by
  obtain ⟨_, _, _, hspelled, _⟩ := Pattern.read_eq_ok_iff.mp h
  exact forall_of_forall₂ hspelled fun lexeme _ token htoken => htoken.worded

namespace Pattern
open Parley.Alignment

/-- The blocks of words that a pattern captures: for each token that captures there is one, in the
order of the tokens; none is empty, and none begins before the last one has ended; and wildcards
take only words that they admit. -/
structure Captures (pattern : Pattern) (words : List Word) (spans : List Span) : Prop where
  nonempty : ∀ span ∈ spans, 0 < span.length
  inside : ∀ span ∈ spans, span.stop ≤ words.length
  increasing : spans.Pairwise fun span next => span.stop ≤ next.start
  admitted : List.Forall₂ (fun token span => ∀ kind, token = .wild kind →
    ∀ word ∈ span.block words, kind.admits word = true) (pattern.tokens.filter Token.captures) spans

/-- The items are the texts of the blocks of words that a pattern captures. -/
def Yields (pattern : Pattern) (words : List Word) (items : List String) : Prop :=
  ∃ spans, pattern.Captures words spans ∧ items = spans.map (Span.text words)

variable {pattern : Pattern} {words : List Word} {items : List String}

theorem yields_of_align {arrays : Arrays} (h : pattern.align arrays words = some items)
    (htokens : ∀ token ∈ pattern.tokens, token.Worded) (harrays : arrays.Worded) :
    pattern.Yields words items := by
  obtain ⟨found, hrecords, rfl⟩ := exists_records_of_align h
  have hinside : ∀ span ∈ found.spans.reverse, span.stop ≤ words.length := by
    intro span hspan
    exact Nat.le_trans (hrecords.behind span (List.mem_reverse.mp hspan)) hrecords.position_le
  have hblock : ∀ span ∈ found.spans.reverse, span.block words ≠ [] := by
    refine forall_of_forall₂ hrecords.taken fun token htoken span htakes => ?_
    obtain ⟨hmem, hcaptures⟩ := List.mem_filter.mp htoken
    obtain ⟨choice, htakes⟩ := htakes
    exact htakes.block_ne_nil hcaptures (htokens token hmem) harrays
  refine ⟨found.spans.reverse, ⟨?_, hinside, ?_, ?_⟩, rfl⟩
  · intro span hspan
    have hpos := List.length_pos_iff.mpr (hblock span hspan)
    rwa [Span.length_block (hinside span hspan)] at hpos
  · exact List.pairwise_reverse.mpr hrecords.apart
  · refine hrecords.taken.imp fun token span htakes kind hkind => ?_
    obtain ⟨choice, htakes⟩ := htakes
    subst hkind
    exact htakes.admits

theorem Yields.length_eq (h : pattern.Yields words items) :
    items.length = pattern.captureCount := by
  obtain ⟨spans, hcaptures, rfl⟩ := h
  rw [List.length_map, captureCount, List.countP_eq_length_filter]
  exact hcaptures.admitted.length_eq.symm

theorem Yields.ne_empty (h : pattern.Yields words items)
    (hwords : ∀ word ∈ words, word.bare ≠ "") : ∀ item ∈ items, item ≠ "" := by
  obtain ⟨spans, hcaptures, rfl⟩ := h
  rw [List.forall_mem_map]
  intro span hspan
  have hlength := Span.length_block (hcaptures.inside span hspan)
  have hpos := hcaptures.nonempty span hspan
  rw [← hlength, List.length_pos_iff] at hpos
  refine Message.bareText_ne_empty hpos fun word hword => hwords word ?_
  exact List.mem_of_mem_drop (List.mem_of_mem_take hword)

end Pattern
end Parley
