import Parley.Proofs.Bot.BestMatch
import Parley.Proofs.Bot.Identity
import Parley.Proofs.Pattern.Literals
import Parley.Proofs.Topic.Monotonicity

/-!
# An exact phrase wins

A topic is asked in the very words of one of its triggers. That trigger fits, and it is seen at
depth zero, in the first band of its weight. So whatever else the topic sees through its edges, the
entry that answers is one of the topic's own level and of the first band, which asks for these words
too.
-/
namespace Parley

/-- What is as specific as a pattern of the first band belongs to this band. -/
theorem Specificity.band_eq_atomic {a b : Specificity} (h : a.Precedes b ∨ a = b)
    (hb : b.band = .atomic) : a.band = .atomic := by
  obtain (hlt | ⟨heq, _⟩) | rfl := h
  · rw [hb] at hlt
    exact absurd hlt (Nat.not_lt_zero _)
  · exact heq.trans hb
  · exact hb

namespace Graph

/-- If an entry of the first band fits at depth zero, and no entry there has a greater weight, then
the foremost entry that fits is such an entry too. -/
theorem Foremost.atomic {g : Graph} {entries : List Entry} {Fits : Entry → Prop}
    {entry own : Entry} (h : g.Foremost .plain entries Fits entry) (hown : own ∈ entries)
    (hfits : Fits own) (hdepth : own.depth = 0)
    (hweight : ∀ e ∈ entries, e.depth = 0 →
      (g.trigger e.trigger).pattern.weight ≤ (g.trigger own.trigger).pattern.weight)
    (hband : (g.trigger own.trigger).pattern.band = .atomic) :
    entry.depth = 0 ∧ (g.trigger entry.trigger).pattern.band = .atomic := by
  by_cases heq : own = entry
  · rw [← heq]
    exact ⟨hdepth, hband⟩
  · have hprecedes := h.precedes_rank hown hfits heq
    simp only [Rank.Precedes, rank, Trigger.rank, hdepth] at hprecedes
    obtain hlt | ⟨hzero, hlt | ⟨_, hprimary⟩⟩ := hprecedes
    · exact absurd hlt (Nat.not_lt_zero _)
    · exact absurd (hweight entry h.mem hzero) (Nat.not_le_of_lt hlt)
    · have hspecific := hprimary.imp_right And.left
      exact ⟨hzero, Specificity.band_eq_atomic hspecific hband⟩

end Graph

namespace Bot

/-- While topics hold their listings, messages are answered by the entries that a topic sees. -/
theorem answers_of_listed {b : Bot} (h : b.graph.Listed b.options.limit) {topic : String}
    {id : TopicId} (hfind : b.graph.find? topic = some id) (message : String)
    (previous : Option String) :
    ∃ answer, b.matchMessage topic message previous = .ok answer ∧
      b.Answers id (Message.read message) (previous.map Message.read) answer := by
  have hlisting := listing_of_sorted_eq_some hfind (h id (Graph.lt_size_of_find? hfind))
  have hmatch := matchMessage_of_listing hlisting message previous
  rw [Graph.idOf_eq hfind] at hmatch
  exact ⟨_, hmatch, b.answers_findHit? id (Message.read message) (previous.map Message.read)⟩

/-- A trigger whose pattern has the words of its text, and these only, asks for them in lower
case. -/
theorem tokens_of_exactPhrase {b : Bot} (h : b.graph.Readable) {topic : TopicId}
    {trigger : TriggerId} (howned : trigger ∈ (b.graph.topic topic).triggers)
    (hphrase : ExactPhrase (b.graph.trigger trigger).raw.toList) :
    (b.graph.trigger trigger).pattern.tokens =
      (loweredWords (b.graph.trigger trigger).raw).map .literal := by
  have hread := (h.compiled_of_owned howned).pattern
  rw [hphrase.read_eq] at hread
  rw [← Except.ok.inj hread]

/-- If an own trigger asks for the words of the message and no entry at depth zero has a greater
weight, then an entry at depth zero answers that asks for these words too. -/
theorem Answers.exactPhrase {b : Bot} {topic : TopicId} {trigger : TriggerId} {text : String}
    {answer : Option Match} (h : b.Answers topic (Message.read text) none answer)
    (hphrase : ExactPhrase text.toList)
    (hown : ⟨trigger, 0⟩ ∈ b.graph.visible b.options.limit .plain topic)
    (htokens : (b.graph.trigger trigger).pattern.tokens = (loweredWords text).map .literal)
    (hweight : ∀ e ∈ b.graph.visible b.options.limit .plain topic, e.depth = 0 →
      (b.graph.trigger e.trigger).pattern.weight ≤ (b.graph.trigger trigger).pattern.weight) :
    ∃ m, ∃ literals : List String, answer = some m ∧ m.depth = 0 ∧
      (b.graph.trigger m.trigger).pattern.tokens = literals.map .literal ∧
      m.pattern = " ".intercalate literals ∧ Phrase.Spells literals (Message.read text) := by
  have hfits : b.Fits (Message.read text) ⟨trigger, 0⟩ :=
    (Pattern.align_literals_iff htokens).mpr hphrase.spells
  cases h with
  | contextual hreply => cases hreply
  | nothing _ hplain => exact absurd hfits (hplain _ hown)
  | @plain m entry _ hforemost hreports _ _ hcaptures =>
    obtain ⟨hdepth, hatomic⟩ := hforemost.atomic hown hfits rfl hweight
      (Pattern.band_eq_atomic_iff.mpr ⟨_, htokens⟩)
    obtain ⟨literals, hliterals⟩ := Pattern.band_eq_atomic_iff.mp hatomic
    refine ⟨m, literals, rfl, hreports.depth.trans hdepth, ?_, ?_, ?_⟩
    · rw [hreports.trigger, hliterals]
    · rw [hreports.pattern_eq, Pattern.text, hliterals, List.map_map]
      exact congrArg _ (List.map_id literals)
    · exact (Pattern.align_literals_iff hliterals).mp ⟨_, hcaptures⟩

/-- Take any bot that was just sorted, and a trigger of a topic that asks for nothing but given
words and has no condition. If no entry at depth zero has a greater weight, the text of the trigger
as a message is answered at depth zero, by a trigger that asks for given words only, as many as the
text has. -/
theorem exact_phrase_wins (options : Options) (operations : List Operation) {topic : String}
    {id : TopicId} {trigger : TriggerId} :
    let b := (new options).run (operations ++ [.sort])
    let t := b.graph.trigger trigger
    b.graph.find? topic = some id → trigger ∈ (b.graph.topic id).triggers → t.previous = none →
    ExactPhrase t.raw.toList →
    (∀ listing, b.listing topic = .ok listing → ∀ e ∈ listing.plain, e.depth = 0 →
      (b.graph.trigger e.trigger).pattern.weight ≤ t.pattern.weight) →
    ∃ m, ∃ literals : List String, b.matchMessage topic t.raw none = .ok (some m) ∧ m.depth = 0 ∧
      (b.graph.trigger m.trigger).pattern.tokens = literals.map .literal ∧
      m.pattern = " ".intercalate literals ∧
      literals.length = (Text.words t.raw.toList).length := by
  intro b t hfind howned hprevious hphrase hweight
  have hreadable : b.graph.Readable := kept_run Graph.kept_readable Graph.readable_empty _ _
  have hlisted : b.graph.Listed b.options.limit := by
    have hsort : b = ((new options).run operations).sort.1 := run_append_singleton ..
    rw [hsort]
    exact Graph.listed_sort _ _
  clear_value b
  obtain ⟨answer, hmatch, hanswers⟩ := answers_of_listed hlisted hfind t.raw none
  have hkind : t.kind = .plain := by simp [Trigger.kind, hprevious]
  have hown : ⟨trigger, 0⟩ ∈ b.graph.visible b.options.limit .plain id :=
    Graph.own_mem_visible howned hkind
  have hlightest : ∀ e ∈ b.graph.visible b.options.limit .plain id, e.depth = 0 →
      (b.graph.trigger e.trigger).pattern.weight ≤ t.pattern.weight := by
    intro e he
    have hsorted := hlisted id (Graph.lt_size_of_find? hfind)
    refine hweight _ (listing_of_sorted_eq_some hfind hsorted) e ?_
    have hplain := b.graph.entries_list b.options.limit id .plain
    rw [Listing.entries] at hplain
    rwa [hplain, Graph.mem_sortEntries]
  obtain ⟨m, literals, rfl, hdepth, hliterals, hpattern, hspells⟩ :=
    hanswers.exactPhrase hphrase hown (tokens_of_exactPhrase hreadable howned hphrase) hlightest
  refine ⟨m, literals, hmatch, hdepth, hliterals, hpattern, ?_⟩
  rw [hspells.length_eq, ← hphrase.spells.length_eq, loweredWords, Text.words_lowercase,
    List.length_map, List.length_map]

/-- The words of a trigger go before an own trigger with a star and an inherited one. -/
theorem exact_phrase_wins_over_stars :
    let operations := [.addEdge .inherits "sea" "random", .register "sea" "hello *" ["yes"] none,
      .register "sea" "Hello World" ["hi"] none, .register "random" "*" ["go on"] none]
    let b := (new .standard).run (operations ++ [.sort])
    b.graph.find? "sea" = some 0 ∧ 1 ∈ (b.graph.topic 0).triggers ∧
    (b.graph.trigger 1).previous = none ∧ ExactPhrase (b.graph.trigger 1).raw.toList ∧
    ∃ m, ∃ literals : List String,
      b.matchMessage "sea" (b.graph.trigger 1).raw none = .ok (some m) ∧ m.depth = 0 ∧
      (b.graph.trigger m.trigger).pattern.tokens = literals.map .literal ∧
      m.pattern = " ".intercalate literals ∧
      literals.length = (Text.words (b.graph.trigger 1).raw.toList).length := by
  intro operations b
  have hfind : b.graph.find? "sea" = some 0 := by decide +kernel
  have howned : 1 ∈ (b.graph.topic 0).triggers := by decide +kernel
  have hprevious : (b.graph.trigger 1).previous = none := by decide +kernel
  have hphrase : ExactPhrase (b.graph.trigger 1).raw.toList := by decide +kernel
  have hweight (id : TriggerId) : (b.graph.trigger id).pattern.weight = 0 := by
    have hall : (b.graph.triggers.all fun t => t.pattern.weight == 0) = true := by decide +kernel
    rw [Graph.trigger]
    cases ht : b.graph.triggers[id]? with
    | none => rfl
    | some t => exact beq_iff_eq.mp (Array.all_eq_true'.mp hall t (Array.mem_of_getElem? ht))
  refine ⟨hfind, howned, hprevious, hphrase, ?_⟩
  refine exact_phrase_wins .standard operations hfind howned hprevious hphrase ?_
  intro listing _ e _ _
  rw [hweight, hweight]

end Bot
end Parley
