import Parley.Proofs.Bot.BestMatch
import Parley.Proofs.Bot.Numbers
import Parley.Proofs.Topic.Renumbering

/-!
# Answers that have no numbers in them

What a bot spells out about the entries of a listing is read off the triggers and the names of their
topics. So where the graphs of two bots differ in numbers only, the bots give the same listings and
the same matches; the number of its trigger is the one thing in a match that tells them apart.
-/
namespace Parley

/-- A match without the number of its trigger. -/
def Match.anonymous (m : Match) : Match := { m with trigger := 0 }

namespace Bot

/-- What a hit in a topic is spelled as, without the number of the trigger. -/
def outcome (b : Bot) (topic : TopicId) (hit : Hit) : Match := (b.spell topic hit).anonymous

/-- If nothing matches after the reply before, the message is matched alone. -/
theorem findHit?_eq_or (b : Bot) (listing : Listing) (message : List Word)
    (reply : Option (List Word)) : b.findHit? listing message reply =
      (reply.bind fun reply =>
        listing.previous.findSome? (Hit.contextual? b.graph b.arrays message reply)).or
      (listing.plain.findSome? (Hit.plain? b.graph b.arrays message)) := by
  rw [findHit?]
  split
  · rename_i hit hcontextual
    rw [hcontextual, Option.some_or]
  · rename_i hcontextual
    rw [hcontextual, Option.none_or]

/-- A hit is one of an entry of the listing. -/
theorem exists_entry_of_findHit? {b : Bot} {listing : Listing} {message : List Word}
    {reply : Option (List Word)} {hit : Hit} (h : b.findHit? listing message reply = some hit) :
    (∃ words, reply = some words ∧ ∃ entry ∈ listing.previous,
      Hit.contextual? b.graph b.arrays message words entry = some hit) ∨
    ∃ entry ∈ listing.plain, Hit.plain? b.graph b.arrays message entry = some hit := by
  rw [findHit?_eq_or, Option.or_eq_some_iff] at h
  obtain hcontextual | ⟨_, hplain⟩ := h
  · obtain ⟨words, hwords, hscan⟩ := Option.bind_eq_some_iff.mp hcontextual
    exact .inl ⟨words, hwords, List.exists_of_findSome?_eq_some hscan⟩
  · exact .inr (List.exists_of_findSome?_eq_some hplain)

section Entries
variable {b b' : Bot} {ρ : Renumbering} {Part : TopicId → Prop} {s : TopicId}
  (h : b.graph.Renumbers b'.graph ρ Part)
include h

theorem describe_renumber {e : Entry} (he : b.graph.Owned Part e.trigger) :
    b'.describe (e.renumber ρ) = b.describe e := by
  have htrigger : b'.graph.trigger (e.renumber ρ).trigger =
      (b.graph.trigger e.trigger).renumber ρ := h.trigger e.trigger he
  have howner := h.name _ (h.owner e.trigger he)
  rw [describe, describe, htrigger]
  exact congrArg (fun owner => (⟨_, _, _, owner, _⟩ : Listed)) howner

theorem outcome_renumber (hs : Part s) {e : Entry} (he : b.graph.Owned Part e.trigger)
    (captures previousCaptures : List String) (contextual : Bool) :
    b'.outcome (ρ.topic s) ⟨e.renumber ρ, captures, previousCaptures, contextual⟩ =
      b.outcome s ⟨e, captures, previousCaptures, contextual⟩ := by
  have htrigger : b'.graph.trigger (e.renumber ρ).trigger =
      (b.graph.trigger e.trigger).renumber ρ := h.trigger e.trigger he
  have howner := h.name _ (h.owner e.trigger he)
  rw [outcome, outcome, spell, spell, htrigger, h.name s hs]
  exact congrArg (fun owner => (⟨0, _, owner, _, _, _, _, _, _⟩ : Match)) howner

theorem plain?_renumber (hs : Part s) (harrays : b'.arrays = b.arrays) (message : List Word)
    {e : Entry} (he : b.graph.Owned Part e.trigger) :
    (Hit.plain? b'.graph b'.arrays message (e.renumber ρ)).map (b'.outcome (ρ.topic s)) =
      (Hit.plain? b.graph b.arrays message e).map (b.outcome s) := by
  have htrigger : b'.graph.trigger (e.renumber ρ).trigger =
      (b.graph.trigger e.trigger).renumber ρ := h.trigger e.trigger he
  rw [Hit.plain?, Hit.plain?, htrigger, harrays]
  simp only [Trigger.renumber]
  cases (b.graph.trigger e.trigger).pattern.align b.arrays message with
  | none => rfl
  | some captures => exact congrArg some (outcome_renumber h hs he captures [] false)

theorem contextual?_renumber (hs : Part s) (harrays : b'.arrays = b.arrays)
    (message reply : List Word) {e : Entry} (he : b.graph.Owned Part e.trigger) :
    (Hit.contextual? b'.graph b'.arrays message reply (e.renumber ρ)).map (b'.outcome (ρ.topic s)) =
      (Hit.contextual? b.graph b.arrays message reply e).map (b.outcome s) := by
  have htrigger : b'.graph.trigger (e.renumber ρ).trigger =
      (b.graph.trigger e.trigger).renumber ρ := h.trigger e.trigger he
  rw [Hit.contextual?, Hit.contextual?, htrigger, harrays]
  simp only [Trigger.renumber]
  cases (b.graph.trigger e.trigger).previous with
  | none => rfl
  | some condition =>
    simp only [Option.bind_eq_bind, Option.bind_some]
    cases condition.align b.arrays reply with
    | none => rfl
    | some previousCaptures =>
      simp only [Option.bind_some]
      cases (b.graph.trigger e.trigger).pattern.align b.arrays message with
      | none => rfl
      | some captures =>
        exact congrArg some (outcome_renumber h hs he captures previousCaptures true)

end Entries

/-- Going through a list under other numbers, one comes to the same match. -/
theorem findSome?_renumber {ρ : Renumbering} {entries : List Entry}
    {hit? hit?' : Entry → Option Hit} {spelled spelled' : Hit → Match}
    (h : ∀ e ∈ entries, (hit?' (e.renumber ρ)).map spelled' = (hit? e).map spelled) :
    ((entries.map (Entry.renumber ρ)).findSome? hit?').map spelled' =
      (entries.findSome? hit?).map spelled := by
  induction entries with
  | nil => rfl
  | cons e entries ih =>
    obtain ⟨he, hentries⟩ := List.forall_mem_cons.mp h
    rw [List.map_cons, List.findSome?_cons, List.findSome?_cons]
    cases hhit : hit? e with
    | none =>
      rw [hhit, Option.map_none, Option.map_eq_none_iff] at he
      rw [he]
      exact ih hentries
    | some hit =>
      rw [hhit, Option.map_some, Option.map_eq_some_iff] at he
      obtain ⟨hit', hhit', heq⟩ := he
      rw [hhit', Option.map_some, Option.map_some, heq]

/-- A part of one bot is found in another one under other numbers, and both are sorted alike. -/
structure Alike (b b' : Bot) (ρ : Renumbering) (Part : TopicId → Prop) : Prop where
  renumbers : b.graph.Renumbers b'.graph ρ Part
  arrays : b'.arrays = b.arrays
  limit : b'.options.limit = b.options.limit
  listed : b.graph.Listed b.options.limit
  listed' : b'.graph.Listed b'.options.limit
  orderly : ∀ s, Part s → ∀ kind, ∀ e ∈ b.graph.visible b.options.limit kind s,
    ∀ other ∈ b.graph.visible b.options.limit kind s,
      ((b.graph.rank kind e).renumber ρ).le ((b.graph.rank kind other).renumber ρ) =
        (b.graph.rank kind e).le (b.graph.rank kind other)

namespace Alike
variable {b b' : Bot} {ρ : Renumbering} {Part : TopicId → Prop} {s : TopicId} {topic : String}
  (h : b.Alike b' ρ Part)
include h

theorem entries_list (hs : Part s) (kind : Kind) :
    (b'.graph.list b'.options.limit (ρ.topic s)).1.entries kind =
      ((b.graph.list b.options.limit s).1.entries kind).map (Entry.renumber ρ) := by
  rw [Graph.entries_list, Graph.entries_list, h.limit]
  exact h.renumbers.sortEntries_renumber hs (h.orderly s hs kind)

theorem owned (hs : Part s) (kind : Kind) {e : Entry}
    (he : e ∈ (b.graph.list b.options.limit s).1.entries kind) : b.graph.Owned Part e.trigger := by
  rw [Graph.entries_list, Graph.mem_sortEntries] at he
  exact h.renumbers.owned_of_mem_visible hs he

theorem listing (hs : b.graph.find? topic = some s)
    (hfind : b'.graph.find? topic = (b.graph.find? topic).map ρ.topic) :
    b.listing topic = .ok (b.graph.list b.options.limit s).1 ∧
      b'.listing topic = .ok (b'.graph.list b'.options.limit (ρ.topic s)).1 := by
  rw [hs, Option.map_some] at hfind
  exact ⟨listing_of_sorted_eq_some hs (h.listed s (Graph.lt_size_of_find? hs)),
    listing_of_sorted_eq_some hfind (h.listed' _ (Graph.lt_size_of_find? hfind))⟩

theorem findHit? (hs : Part s) (message : List Word) (reply : Option (List Word)) :
    (b'.findHit? (b'.graph.list b'.options.limit (ρ.topic s)).1 message reply).map
        (b'.outcome (ρ.topic s)) =
      (b.findHit? (b.graph.list b.options.limit s).1 message reply).map (b.outcome s) := by
  have hmessage : ((b'.graph.list b'.options.limit (ρ.topic s)).1.plain.findSome?
        (Hit.plain? b'.graph b'.arrays message)).map (b'.outcome (ρ.topic s)) =
      ((b.graph.list b.options.limit s).1.plain.findSome?
        (Hit.plain? b.graph b.arrays message)).map (b.outcome s) := by
    have hplain := h.entries_list hs .plain
    simp only [Listing.entries] at hplain
    rw [hplain]
    exact findSome?_renumber fun e he =>
      plain?_renumber h.renumbers hs h.arrays message (h.owned hs .plain he)
  have hreply (reply : List Word) :
      ((b'.graph.list b'.options.limit (ρ.topic s)).1.previous.findSome?
        (Hit.contextual? b'.graph b'.arrays message reply)).map (b'.outcome (ρ.topic s)) =
      ((b.graph.list b.options.limit s).1.previous.findSome?
        (Hit.contextual? b.graph b.arrays message reply)).map (b.outcome s) := by
    have hprevious := h.entries_list hs .previous
    simp only [Listing.entries] at hprevious
    rw [hprevious]
    exact findSome?_renumber fun e he =>
      contextual?_renumber h.renumbers hs h.arrays message reply (h.owned hs .previous he)
  rw [findHit?_eq_or, findHit?_eq_or, Option.map_or, Option.map_or, hmessage]
  cases reply with
  | none => rfl
  | some reply => rw [Option.bind_some, Option.bind_some, hreply]

variable (hfind : b'.graph.find? topic = (b.graph.find? topic).map ρ.topic)
  (hpart : ∀ s, b.graph.find? topic = some s → Part s)
include hfind hpart

/-- A topic lists the same under other numbers. -/
theorem sorted (kind : Kind) : b'.sorted kind topic = b.sorted kind topic := by
  cases hs : b.graph.find? topic with
  | some s =>
    obtain ⟨hlisting, hlisting'⟩ := h.listing hs hfind
    rw [Bot.sorted, Bot.sorted, hlisting, hlisting', Except.map, Except.map,
      h.entries_list (hpart s hs), List.map_map]
    exact congrArg _ (List.map_congr_left fun e he =>
      describe_renumber h.renumbers (h.owned (hpart s hs) kind he))
  | none =>
    rw [hs, Option.map_none] at hfind
    rw [Bot.sorted, Bot.sorted, listing_of_unknown hs, listing_of_unknown hfind]
    rfl

/-- A message in the topic has the same match under other numbers. -/
theorem matchMessage (message : String) (previous : Option String) :
    (b'.matchMessage topic message previous).map (Option.map Match.anonymous) =
      (b.matchMessage topic message previous).map (Option.map Match.anonymous) := by
  cases hs : b.graph.find? topic with
  | some s =>
    obtain ⟨hlisting, hlisting'⟩ := h.listing hs hfind
    rw [hs, Option.map_some] at hfind
    rw [matchMessage_of_listing hlisting, matchMessage_of_listing hlisting', Graph.idOf_eq hs,
      Graph.idOf_eq hfind, Except.map, Except.map, Option.map_map, Option.map_map]
    exact congrArg Except.ok
      (h.findHit? (hpart s hs) (Message.read message) (previous.map Message.read))
  | none =>
    rw [hs, Option.map_none] at hfind
    rw [matchMessage_of_error (listing_of_unknown hs),
      matchMessage_of_error (listing_of_unknown hfind)]

/-- Sorting reports the same on the topic under other numbers. -/
theorem report : SortReport.find? b'.sort.2 topic = SortReport.find? b.sort.2 topic := by
  have hreport := b.graph.find?_report b.options.limit topic
  have hreport' := b'.graph.find?_report b'.options.limit topic
  rw [Bot.sort, Bot.sort, hreport, hreport', h.limit, hfind]
  cases hs : b.graph.find? topic with
  | some s => exact congrArg some (h.renumbers.report_renumber (hpart s hs))
  | none => rfl

end Alike
end Bot
end Parley
