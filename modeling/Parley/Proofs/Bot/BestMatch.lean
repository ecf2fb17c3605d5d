import Parley.Proofs.Alignment.Search
import Parley.Proofs.Bot.Freshness
import Parley.Proofs.Topic.CanonicalOrder

/-!
# The best match

A message is answered by the entry that comes first among those that fit. The entries with a
condition on the reply before have precedence over all others. Which entries a topic sees and which
keys they have is read off the graph as it is, not off the listing that the topic holds.
-/
namespace Parley

namespace Graph

/-- An entry fits and its key is less than that of every other entry that does. -/
structure Foremost (g : Graph) (kind : Kind) (entries : List Entry) (Fits : Entry → Prop)
    (entry : Entry) : Prop where
  mem : entry ∈ entries
  fits : Fits entry
  precedes : ∀ other ∈ entries, Fits other → other ≠ entry →
    g.key kind entry < g.key kind other

theorem Foremost.precedes_rank {g : Graph} {kind : Kind} {entries : List Entry}
    {Fits : Entry → Prop} {entry other : Entry} (h : g.Foremost kind entries Fits entry)
    (hother : other ∈ entries) (hfits : Fits other) (hne : other ≠ entry) :
    (g.rank kind entry).Precedes (g.rank kind other) :=
  precedes_iff_key_lt.mpr (h.precedes other hother hfits hne)

theorem Foremost.unique {g : Graph} {kind : Kind} {entries : List Entry} {Fits : Entry → Prop}
    {a b : Entry} (ha : g.Foremost kind entries Fits a) (hb : g.Foremost kind entries Fits b) :
    a = b := by
  by_contra hne
  have hab := ha.precedes b hb.mem hb.fits (Ne.symm hne)
  exact lt_asymm hab (hb.precedes a ha.mem ha.fits hne)

/-- Scanning sorted entries stops at the foremost entry that fits. -/
theorem foremost_of_findSome?_eq_some {β : Type} {g : Graph} {kind : Kind}
    {entries : List Entry} {f : Entry → Option β} {found : β}
    (h : (g.sortEntries kind entries).findSome? f = some found) :
    ∃ entry, f entry = some found ∧
      g.Foremost kind entries (fun entry => ∃ found, f entry = some found) entry := by
  obtain ⟨before, entry, after, heq, hentry, hbefore⟩ := List.findSome?_eq_some_iff.mp h
  have hpairwise := g.pairwise_sortEntries kind entries
  rw [heq, List.pairwise_append, List.pairwise_cons] at hpairwise
  obtain ⟨_, ⟨hafter, _⟩, _⟩ := hpairwise
  refine ⟨entry, hentry, ?_, ⟨found, hentry⟩, ?_⟩
  · have hmem : entry ∈ g.sortEntries kind entries := by simp [heq]
    exact mem_sortEntries.mp hmem
  · rintro other hother ⟨otherFound, hfound⟩ hne
    have hmem : other ∈ before ++ entry :: after := by
      rw [← heq]
      exact mem_sortEntries.mpr hother
    rw [List.mem_append, List.mem_cons] at hmem
    obtain hmem | rfl | hmem := hmem
    · rw [hbefore other hmem] at hfound
      cases hfound
    · exact absurd rfl hne
    · exact precedes_iff_key_lt.mp (precedes_of_le_of_ne (hafter other hmem) (Ne.symm hne))

theorem eq_none_of_findSome?_eq_none {β : Type} {g : Graph} {kind : Kind}
    {entries : List Entry} {f : Entry → Option β}
    (h : (g.sortEntries kind entries).findSome? f = none) {entry : Entry}
    (hentry : entry ∈ entries) : f entry = none :=
  List.findSome?_eq_none_iff.mp h entry (mem_sortEntries.mpr hentry)

end Graph

namespace Hit

theorem plain?_eq_some_iff {g : Graph} {arrays : Arrays} {message : List Word} {entry : Entry}
    {hit : Hit} : plain? g arrays message entry = some hit ↔
      ∃ captures, (g.trigger entry.trigger).pattern.align arrays message = some captures ∧
        ⟨entry, captures, [], false⟩ = hit := by
  rw [plain?, Option.map_eq_some_iff]

theorem contextual?_eq_some_iff {g : Graph} {arrays : Arrays} {message reply : List Word}
    {entry : Entry} {hit : Hit} : contextual? g arrays message reply entry = some hit ↔
      ∃ condition previousCaptures captures, (g.trigger entry.trigger).previous = some condition ∧
        condition.align arrays reply = some previousCaptures ∧
        (g.trigger entry.trigger).pattern.align arrays message = some captures ∧
        ⟨entry, captures, previousCaptures, true⟩ = hit := by
  simp [contextual?, Option.bind_eq_some_iff]

end Hit

namespace Bot

/-- The pattern of an entry aligns with the message. -/
def Fits (b : Bot) (message : List Word) (entry : Entry) : Prop :=
  ∃ captures, (b.graph.trigger entry.trigger).pattern.align b.arrays message = some captures

/-- The condition of an entry aligns with the reply before as well. -/
def FitsAfter (b : Bot) (message reply : List Word) (entry : Entry) : Prop :=
  b.Fits message entry ∧ ∃ condition previousCaptures,
    (b.graph.trigger entry.trigger).previous = some condition ∧
      condition.align b.arrays reply = some previousCaptures

theorem exists_plain?_iff {b : Bot} {message : List Word} {entry : Entry} :
    (∃ hit, Hit.plain? b.graph b.arrays message entry = some hit) ↔ b.Fits message entry := by
  simp only [Hit.plain?_eq_some_iff, Fits]
  constructor
  · intro h
    obtain ⟨_, captures, halign, _⟩ := h
    exact ⟨captures, halign⟩
  · intro h
    obtain ⟨captures, halign⟩ := h
    exact ⟨_, captures, halign, rfl⟩

theorem exists_contextual?_iff {b : Bot} {message reply : List Word} {entry : Entry} :
    (∃ hit, Hit.contextual? b.graph b.arrays message reply entry = some hit) ↔
      b.FitsAfter message reply entry := by
  simp only [Hit.contextual?_eq_some_iff, FitsAfter, Fits]
  constructor
  · intro h
    obtain ⟨_, condition, previousCaptures, captures, hcondition, hprevious, halign, _⟩ := h
    exact ⟨⟨captures, halign⟩, condition, previousCaptures, hcondition, hprevious⟩
  · intro h
    obtain ⟨⟨captures, halign⟩, condition, previousCaptures, hcondition, hprevious⟩ := h
    exact ⟨_, condition, previousCaptures, captures, hcondition, hprevious, halign, rfl⟩

/-- A match tells what the graph has about an entry. -/
structure Reports (b : Bot) (topic : TopicId) (entry : Entry) (m : Match) : Prop where
  trigger : m.trigger = entry.trigger
  topic : m.topic = (b.graph.topic topic).name
  owner : m.owner = (b.graph.topic (b.graph.trigger entry.trigger).topic).name
  pattern : m.pattern = (b.graph.trigger entry.trigger).pattern.spelling
  depth : m.depth = entry.depth
  responses : m.responses = (b.graph.trigger entry.trigger).responses

theorem Reports.pattern_eq {b : Bot} {topic : TopicId} {entry : Entry} {m : Match}
    (h : b.Reports topic entry m) : m.pattern = (b.graph.trigger entry.trigger).pattern.text :=
  h.pattern.trans (Pattern.spelling_eq _)

theorem reports_spell (b : Bot) (topic : TopicId) (hit : Hit) :
    b.Reports topic hit.entry (b.spell topic hit) :=
  ⟨rfl, rfl, rfl, (Pattern.spelling_eq _).symm, rfl, rfl⟩

/-- What the right answer to a message in a topic is, for the words of the message and of the
reply before. -/
inductive Answers (b : Bot) (topic : TopicId) (message : List Word) (reply : Option (List Word)) :
    Option Match → Prop
  /-- The foremost entry with a condition that fits. -/
  | contextual {m : Match} {entry : Entry} {words : List Word} {condition : Pattern}
      (hreply : reply = some words)
      (hforemost : b.graph.Foremost .previous (b.graph.visible b.options.limit .previous topic)
        (b.FitsAfter message words) entry)
      (hreports : b.Reports topic entry m)
      (hcondition : (b.graph.trigger entry.trigger).previous = some condition)
      (hprevious : m.previous = some condition.spelling)
      (hpreviousCaptures : condition.align b.arrays words = some m.previousCaptures)
      (hcaptures : (b.graph.trigger entry.trigger).pattern.align b.arrays message =
        some m.captures) :
      Answers b topic message reply (some m)
  /-- The foremost entry without one, if no entry with a condition fits. -/
  | plain {m : Match} {entry : Entry}
      (hcontext : ∀ words, reply = some words →
        ∀ other ∈ b.graph.visible b.options.limit .previous topic,
          ¬ b.FitsAfter message words other)
      (hforemost : b.graph.Foremost .plain (b.graph.visible b.options.limit .plain topic)
        (b.Fits message) entry)
      (hreports : b.Reports topic entry m)
      (hprevious : m.previous = none)
      (hpreviousCaptures : m.previousCaptures = [])
      (hcaptures : (b.graph.trigger entry.trigger).pattern.align b.arrays message =
        some m.captures) :
      Answers b topic message reply (some m)
  /-- Nothing fits. -/
  | nothing
      (hcontext : ∀ words, reply = some words →
        ∀ other ∈ b.graph.visible b.options.limit .previous topic,
          ¬ b.FitsAfter message words other)
      (hplain : ∀ other ∈ b.graph.visible b.options.limit .plain topic,
        ¬ b.Fits message other) :
      Answers b topic message reply none

theorem Answers.of_contextual {b : Bot} {topic : TopicId} {message words : List Word} {hit : Hit}
    (h : (b.graph.sortEntries .previous (b.graph.visible b.options.limit .previous topic)).findSome?
      (Hit.contextual? b.graph b.arrays message words) = some hit) :
    b.Answers topic message (some words) (some (b.spell topic hit)) := by
  obtain ⟨entry, hhit, hforemost⟩ := Graph.foremost_of_findSome?_eq_some h
  simp only [exists_contextual?_iff] at hforemost
  obtain ⟨condition, previousCaptures, captures, hcondition, hprevious, halign, rfl⟩ :=
    Hit.contextual?_eq_some_iff.mp hhit
  have hreports := b.reports_spell topic ⟨entry, captures, previousCaptures, true⟩
  refine .contextual rfl hforemost hreports hcondition ?_ hprevious halign
  simp [spell, hcondition, condition.spelling_eq]

theorem Answers.of_plain {b : Bot} {topic : TopicId} {message : List Word}
    {reply : Option (List Word)} {hit : Hit}
    (hcontext : ∀ words, reply = some words →
      ∀ other ∈ b.graph.visible b.options.limit .previous topic, ¬ b.FitsAfter message words other)
    (h : (b.graph.sortEntries .plain (b.graph.visible b.options.limit .plain topic)).findSome?
      (Hit.plain? b.graph b.arrays message) = some hit) :
    b.Answers topic message reply (some (b.spell topic hit)) := by
  obtain ⟨entry, hhit, hforemost⟩ := Graph.foremost_of_findSome?_eq_some h
  simp only [exists_plain?_iff] at hforemost
  obtain ⟨captures, halign, rfl⟩ := Hit.plain?_eq_some_iff.mp hhit
  have hreports := b.reports_spell topic ⟨entry, captures, [], false⟩
  exact .plain hcontext hforemost hreports rfl rfl halign

/-- Among the entries that a topic sees, a listing made from the graph leads to the answer. -/
theorem answers_findHit? (b : Bot) (topic : TopicId) (message : List Word)
    (reply : Option (List Word)) :
    b.Answers topic message reply
      ((b.findHit? (b.graph.list b.options.limit topic).1 message reply).map (b.spell topic)) := by
  have hlist := b.graph.entries_list b.options.limit topic
  have hprevious := hlist .previous
  have hplain := hlist .plain
  simp only [Listing.entries] at hprevious hplain
  unfold findHit?
  rw [hprevious, hplain]
  cases hcontextual : reply.bind fun reply =>
      (b.graph.sortEntries .previous (b.graph.visible b.options.limit .previous topic)).findSome?
        (Hit.contextual? b.graph b.arrays message reply) with
  | some hit =>
    obtain ⟨words, rfl, hhit⟩ := Option.bind_eq_some_iff.mp hcontextual
    exact .of_contextual hhit
  | none =>
    have hcontext : ∀ words, reply = some words →
        ∀ other ∈ b.graph.visible b.options.limit .previous topic,
          ¬ b.FitsAfter message words other := by
      rintro words rfl other hother hfits
      obtain ⟨hit, hhit⟩ := exists_contextual?_iff.mpr hfits
      rw [Graph.eq_none_of_findSome?_eq_none hcontextual hother] at hhit
      cases hhit
    cases hscan : (b.graph.sortEntries .plain
        (b.graph.visible b.options.limit .plain topic)).findSome?
          (Hit.plain? b.graph b.arrays message) with
    | some hit => exact .of_plain hcontext hscan
    | none =>
      refine .nothing hcontext fun other hother hfits => ?_
      obtain ⟨hit, hhit⟩ := exists_plain?_iff.mpr hfits
      rw [Graph.eq_none_of_findSome?_eq_none hscan hother] at hhit
      cases hhit

/-- Whatever a run of operations did, an answer that a message gets is the right one. -/
theorem answers_of_matchMessage {options : Options} {operations : List Operation}
    {topic message : String} {previous : Option String} {answer : Option Match}
    (h : ((new options).run operations).matchMessage topic message previous = .ok answer) :
    let b := (new options).run operations
    ∃ id, b.graph.find? topic = some id ∧
      b.Answers id (Message.read message) (previous.map Message.read) answer := by
  intro b
  cases hfind : b.graph.find? topic with
  | none =>
    rw [matchMessage_of_error (listing_of_unknown hfind)] at h
    cases h
  | some id =>
    obtain ⟨hunsorted, hlisted⟩ := listed_or_unsorted_run options operations
    have htouched : ¬ (new options).TouchedSinceSort operations := by
      intro htouched
      rw [matchMessage_of_error (listing_of_sorted_eq_none hfind (hunsorted htouched id))] at h
      cases h
    have hlist := hlisted htouched id (Graph.lt_size_of_find? hfind)
    rw [matchMessage_of_listing (listing_of_sorted_eq_some hfind hlist), Graph.idOf_eq hfind] at h
    obtain rfl := Except.ok.inj h
    exact ⟨id, rfl, b.answers_findHit? id (Message.read message) (previous.map Message.read)⟩

/-- A message is answered by the first entry with a condition if both of its patterns align. -/
theorem matchMessage_of_contextual {b : Bot} {topic message reply : String} {id : TopicId}
    {listing : Listing} {entry : Entry} {later : List Entry} {condition : Pattern}
    {captures previousCaptures : List String} (hfind : b.graph.find? topic = some id)
    (hsorted : (b.graph.topic id).sorted = some listing)
    (hlisting : listing.previous = entry :: later)
    (hcondition : (b.graph.trigger entry.trigger).previous = some condition)
    (hprevious : condition.align b.arrays (Message.read reply) = some previousCaptures)
    (halign : (b.graph.trigger entry.trigger).pattern.align b.arrays (Message.read message) =
      some captures) :
    b.matchMessage topic message (some reply) =
      .ok (some (b.spell id ⟨entry, captures, previousCaptures, true⟩)) := by
  have hhit : Hit.contextual? b.graph b.arrays (Message.read message) (Message.read reply) entry =
      some ⟨entry, captures, previousCaptures, true⟩ :=
    Hit.contextual?_eq_some_iff.mpr ⟨condition, _, _, hcondition, hprevious, halign, rfl⟩
  rw [matchMessage_of_listing (listing_of_sorted_eq_some hfind hsorted), Graph.idOf_eq hfind,
    findHit?, Option.map_some, Option.bind_some, hlisting, List.findSome?_cons, hhit]
  rfl

/-- After any run of operations, a message in a topic that is known and sorted is answered by the
entry with the least key among those that fit and that the topic sees, as the graph is now. A topic
sees the entries that routes yield, with the least depth of each trigger. -/
theorem match_is_best (options : Options) (operations : List Operation)
    {topic : String} {id : TopicId} (message : String) (previous : Option String) :
    let b := (new options).run operations
    b.graph.find? topic = some id → (b.graph.topic id).sorted ≠ none →
      (∃ answer, b.matchMessage topic message previous = .ok answer ∧
        b.Answers id (Message.read message) (previous.map Message.read) answer) ∧
      ∀ kind entry, entry ∈ b.graph.visible b.options.limit kind id ↔
        b.graph.Yields b.options.limit id kind entry ∧
          ∀ depth, b.graph.Yields b.options.limit id kind ⟨entry.trigger, depth⟩ →
            entry.depth ≤ depth := by
  intro b hfind hsorted
  obtain ⟨hunsorted, hlisted⟩ := listed_or_unsorted_run options operations
  have htouched : ¬ (new options).TouchedSinceSort operations :=
    fun htouched => hsorted (hunsorted htouched id)
  have hlist := hlisted htouched id (Graph.lt_size_of_find? hfind)
  have hmatch := matchMessage_of_listing (listing_of_sorted_eq_some hfind hlist) message previous
  rw [Graph.idOf_eq hfind] at hmatch
  exact ⟨⟨_, hmatch, b.answers_findHit? id (Message.read message) (previous.map Message.read)⟩,
    fun _ _ => Graph.mem_visible_iff⟩

/-- Of two triggers that ask for the reply before the one with more given words wins, and both would
win over an inherited one that takes any message. -/
theorem match_is_best_after_reply :
    let operations := [.addEdge .inherits "door" "random",
      .register "door" "*" ["really"] (some "who is there"),
      .register "door" "it is *" ["hello"] (some "who is there"),
      .register "random" "*" ["go on"] none, .sort]
    let b := (new .standard).run operations
    b.graph.find? "door" = some 0 ∧ (b.graph.topic 0).sorted ≠ none ∧
      ∃ m, b.matchMessage "door" "it is me" (some "Who is there?") = .ok (some m) ∧
        b.Answers 0 (Message.read "it is me") (some (Message.read "Who is there?")) (some m) ∧
        m.trigger = 1 := by
  intro operations b
  have hfind : b.graph.find? "door" = some 0 := by decide +kernel
  have hsorted : (b.graph.topic 0).sorted ≠ none := by decide +kernel
  have hvisible : b.graph.visible b.options.limit .previous 0 = [⟨0, 0⟩, ⟨1, 0⟩] := by
    decide +kernel
  have hkey : b.graph.key .previous ⟨1, 0⟩ < b.graph.key .previous ⟨0, 0⟩ := by decide +kernel
  have hfits : b.FitsAfter (Message.read "it is me") (Message.read "Who is there?") ⟨1, 0⟩ := by
    refine ⟨⟨["me"], ?_⟩, ⟨[.literal "who", .literal "is", .literal "there"], 0⟩, [], ?_, ?_⟩
    · rw [Pattern.align, Alignment.found_run]
      decide +kernel
    · decide +kernel
    · rw [Pattern.align, Alignment.found_run]
      decide +kernel
  obtain ⟨⟨answer, hmatch, hanswers⟩, _⟩ :=
    match_is_best .standard operations "it is me" (some "Who is there?") hfind hsorted
  refine ⟨hfind, hsorted, ?_⟩
  have hmem : ⟨1, 0⟩ ∈ b.graph.visible b.options.limit .previous 0 := by simp [hvisible]
  cases hanswers with
  | @contextual m entry _ _ hreply hforemost hreports hcondition hprevious hbefore hcaptures =>
    obtain rfl := Option.some.inj hreply
    have hentry : entry = ⟨1, 0⟩ := by
      have hentry := hforemost.mem
      rw [hvisible, List.mem_pair] at hentry
      obtain rfl | rfl := hentry
      · exact absurd (hforemost.precedes _ hmem hfits (by decide)) (lt_asymm hkey)
      · rfl
    refine ⟨m, hmatch, ?_, by rw [hreports.trigger, hentry]⟩
    exact .contextual rfl hforemost hreports hcondition hprevious hbefore hcaptures
  | plain hcontext => exact absurd hfits (hcontext _ rfl _ hmem)
  | nothing hcontext => exact absurd hfits (hcontext _ rfl _ hmem)

end Bot
end Parley
