import Parley.Proofs.Alignment.Search
import Parley.Proofs.Bot.BestMatch
import Parley.Proofs.Bot.Reordering

/-!
# Sorting accounts for all triggers

A walk comes by a trigger as often as it visits the topic of the trigger. The visits are parted by
kind, collapsed and sorted, and in the end each trigger stands once in the list of its kind, and
all other times that the walk came by are counted as duplicates. So a match has a condition
exactly if its trigger has one.
-/
namespace Parley

/-- The triggers of the topic that a visit lists. -/
def Visit.owned (g : Graph) : Visit → List TriggerId
  | listed topic _ => (g.topic topic).triggers
  | met _ => []

/-- The entries of a visit are its triggers, parted by kind. -/
theorem Visit.entries_append_perm (g : Graph) (visit : Visit) :
    ((visit.entries g .plain).map Entry.trigger ++
      (visit.entries g .previous).map Entry.trigger).Perm (visit.owned g) := by
  cases visit with
  | met issue => exact .nil
  | listed topic tag =>
    have hmap (kind : Kind) : ((listed topic tag).entries g kind).map Entry.trigger =
        (g.topic topic).triggers.filter fun id => (g.trigger id).kind == kind := by
      simp [entries, Function.comp_def]
    have hother (id : TriggerId) :
        ((g.trigger id).kind == .previous) = !((g.trigger id).kind == .plain) := by
      cases (g.trigger id).kind <;> rfl
    rw [hmap, hmap, owned]
    simp only [hother]
    exact List.filter_append_perm _ _

namespace Graph

variable {g : Graph} {limit : Nat} {s : TopicId} {id : TriggerId}

/-- The triggers that a walk comes by, each with the visit to its topic. -/
def sightings (g : Graph) (limit : Nat) (s : TopicId) : List (Visit × TriggerId) :=
  (g.visits limit s).flatMap fun visit => (visit.owned g).map (visit, ·)

/-- A walk comes by a trigger. -/
def Sights (g : Graph) (limit : Nat) (s : TopicId) (id : TriggerId) : Prop :=
  ∃ visit, (visit, id) ∈ g.sightings limit s

theorem sights_iff :
    g.Sights limit s id ↔
      ∃ v tag, .listed v tag ∈ g.visits limit s ∧ id ∈ (g.topic v).triggers := by
  simp only [Sights, sightings, List.mem_flatMap, List.mem_map, Prod.mk.injEq]
  constructor
  · intro h
    obtain ⟨_, visit, hvisit, _, hid, rfl, rfl⟩ := h
    cases visit with
    | listed v tag => exact ⟨v, tag, hvisit, hid⟩
    | met issue => cases hid
  · intro h
    obtain ⟨v, tag, hvisit, hid⟩ := h
    exact ⟨.listed v tag, .listed v tag, hvisit, id, hid, rfl, rfl⟩

/-- Together the two kinds of entries are what the walk comes by. -/
theorem population_perm_sightings (g : Graph) (limit : Nat) (s : TopicId) :
    (((g.population limit s).entries .plain).map Entry.trigger ++
      ((g.population limit s).entries .previous).map Entry.trigger).Perm
        ((g.sightings limit s).map Prod.snd) := by
  have hsightings : (g.sightings limit s).map Prod.snd =
      (g.visits limit s).flatMap (Visit.owned g) := by
    simp [sightings, List.map_flatMap, Function.comp_def]
  rw [hsightings, population, entries_populationOf, entries_populationOf, List.map_flatMap,
    List.map_flatMap]
  exact (List.flatMap_append_perm _ _ _).trans
    (List.Perm.flatMap_left _ fun visit _ => visit.entries_append_perm g)

theorem mem_map_trigger_population_iff {kind : Kind} :
    id ∈ ((g.population limit s).entries kind).map Entry.trigger ↔
      g.Sights limit s id ∧ (g.trigger id).kind = kind := by
  rw [sights_iff, List.mem_map]
  constructor
  · intro h
    obtain ⟨entry, hentry, rfl⟩ := h
    obtain ⟨v, htrigger, hkind, hvisit⟩ := mem_entries_populationOf.mp hentry
    exact ⟨⟨v, entry.depth, hvisit, htrigger⟩, hkind⟩
  · intro h
    obtain ⟨⟨v, tag, hvisit, htrigger⟩, hkind⟩ := h
    exact ⟨⟨id, tag⟩, mem_entries_populationOf.mpr ⟨v, htrigger, hkind, hvisit⟩, rfl⟩

/-- A listing and the report on it account for all that a walk comes by: no list repeats a trigger,
each holds what the walk comes by of its kind, and the rest is counted as duplicates. -/
structure Accounts (g : Graph) (limit : Nat) (s : TopicId) (listing : Listing)
    (report : TopicReport) : Prop where
  nodup : ∀ kind, ((listing.entries kind).map Entry.trigger).Nodup
  plain : ∀ id, id ∈ listing.plain.map Entry.trigger ↔
    g.Sights limit s id ∧ (g.trigger id).previous = none
  previous : ∀ id, id ∈ listing.previous.map Entry.trigger ↔
    g.Sights limit s id ∧ ∃ condition, (g.trigger id).previous = some condition
  plain_eq : report.plain = listing.plain.length
  previous_eq : report.previous = listing.previous.length
  total : report.plain + report.previous + report.duplicates = (g.sightings limit s).length

theorem entries_list_perm (g : Graph) (limit : Nat) (s : TopicId) (kind : Kind) :
    ((g.list limit s).1.entries kind).Perm (g.visible limit kind s) := by
  rw [entries_list]
  exact g.sortEntries_perm kind _

theorem mem_map_trigger_list_iff (kind : Kind) :
    id ∈ ((g.list limit s).1.entries kind).map Entry.trigger ↔
      g.Sights limit s id ∧ (g.trigger id).kind = kind := by
  rw [((g.entries_list_perm limit s kind).map Entry.trigger).mem_iff, visible,
    Entry.entries_collapse, Entry.mem_map_trigger_distinct, mem_map_trigger_population_iff]

theorem length_list_add_dropped (g : Graph) (limit : Nat) (s : TopicId) (kind : Kind) :
    ((g.list limit s).1.entries kind).length +
      (Entry.collapse ((g.population limit s).entries kind)).dropped =
        ((g.population limit s).entries kind).length := by
  rw [(g.entries_list_perm limit s kind).length_eq, Nat.add_comm]
  exact Entry.dropped_add_length _

theorem accounts_list (g : Graph) (limit : Nat) (s : TopicId) :
    g.Accounts limit s (g.list limit s).1 (g.list limit s).2 where
  nodup kind := by
    rw [((g.entries_list_perm limit s kind).map Entry.trigger).nodup_iff]
    exact g.nodup_visible limit kind s
  plain id := by
    rw [← Trigger.kind_eq_plain_iff]
    exact mem_map_trigger_list_iff .plain
  previous id := by
    rw [← Trigger.kind_eq_previous_iff]
    exact mem_map_trigger_list_iff .previous
  plain_eq := rfl
  previous_eq := rfl
  total := by
    have hplain := g.length_list_add_dropped limit s .plain
    have hprevious := g.length_list_add_dropped limit s .previous
    have hlength := (g.population_perm_sightings limit s).length_eq
    simp only [List.length_append, List.length_map] at hlength
    simp only [Listing.entries, Population.entries] at hplain hprevious hlength
    simp only [list] at hplain hprevious ⊢
    omega

end Graph

namespace Bot

/-- Sorting gives a known topic the listing that its graph makes, and reports on it. -/
theorem listing_sort {b : Bot} {topic : String} {id : TopicId}
    (hfind : b.graph.find? topic = some id) :
    b.sort.1.listing topic = .ok (b.graph.list b.options.limit id).1 ∧
      b.sort.2.find? topic = some (b.graph.list b.options.limit id).2 := by
  have hsorted : b.sort.1.graph.find? topic = some id :=
    (b.graph.within_sort b.options.limit).find? hfind
  have hlisted := b.graph.listed_sort b.options.limit id (Graph.lt_size_of_find? hsorted)
  rw [Graph.list_congr (b.graph.unsort_sort b.options.limit)] at hlisted
  refine ⟨listing_of_sorted_eq_some hsorted hlisted, ?_⟩
  have hreport := b.graph.find?_report b.options.limit topic
  rwa [hfind] at hreport

/-- A match tells the condition of its trigger, if that has one, and then a reply was given. -/
theorem Answers.previous_eq {b : Bot} {topic : TopicId} {message : List Word}
    {reply : Option (List Word)} {m : Match} (h : b.Answers topic message reply (some m)) :
    m.previous = (b.graph.trigger m.trigger).previous.map Pattern.text ∧
      (reply = none → (b.graph.trigger m.trigger).previous = none) := by
  cases h with
  | @contextual _ _ _ condition hreply _ hreports hcondition hprevious _ _ =>
    rw [hreports.trigger, hcondition]
    refine ⟨hprevious.trans (congrArg some condition.spelling_eq), fun hnone => ?_⟩
    rw [hreply] at hnone
    cases hnone
  | plain _ hforemost hreports hprevious _ _ =>
    obtain ⟨⟨_, _, hkind, _⟩, _⟩ := Graph.mem_visible_iff.mp hforemost.mem
    rw [hreports.trigger, Trigger.kind_eq_plain_iff.mp hkind]
    exact ⟨hprevious, fun _ => rfl⟩

/-- After any run of operations, sorting accounts for all that the walk from a known topic comes by,
and a match tells a condition exactly if its trigger has one. A trigger that is matched without a
reply before has none. -/
theorem sorting_accounts_for_triggers (options : Options) (operations : List Operation) :
    let b := (new options).run operations
    (∀ topic id, b.graph.find? topic = some id → ∃ listing report,
      b.sort.1.listing topic = .ok listing ∧ b.sort.2.find? topic = some report ∧
        b.graph.Accounts b.options.limit id listing report) ∧
    ∀ topic message previous m, b.matchMessage topic message previous = .ok (some m) →
      m.previous = (b.graph.trigger m.trigger).previous.map Pattern.text ∧
        (previous = none → (b.graph.trigger m.trigger).previous = none) := by
  intro b
  refine ⟨fun topic id hfind => ?_, fun topic message previous m hmatch => ?_⟩
  · obtain ⟨hlisting, hreport⟩ := listing_sort hfind
    exact ⟨_, _, hlisting, hreport, b.graph.accounts_list b.options.limit id⟩
  · obtain ⟨id, _, hanswers⟩ := answers_of_matchMessage hmatch
    obtain ⟨hprevious, hplain⟩ := hanswers.previous_eq
    exact ⟨hprevious, fun hnone => hplain (by rw [hnone, Option.map_none])⟩

/-- Two ways lead to a topic with a trigger of each kind, which are listed once and counted twice.
-/
theorem sorting_accounts_for_triggers_twice_seen :
    let operations := [.addEdge .includes "a" "b", .addEdge .includes "a" "c",
      .addEdge .inherits "b" "d", .addEdge .includes "c" "d", .register "d" "hi" ["hello"] none,
      .register "d" "*" ["fine"] (some "hello"), .sort]
    let b := (new .standard).run operations
    let m := b.spell 0 ⟨⟨1, 0⟩, ["you"], [], true⟩
    (∃ listing, b.sort.1.listing "a" = .ok listing ∧
      b.graph.Accounts 50 0 listing ⟨"a", 1, 1, 2, []⟩) ∧
    b.matchMessage "a" "you" (some "Hello!") = .ok (some m) ∧ m.previous = some "hello" := by
  intro operations b m
  have hfind : b.graph.find? "a" = some 0 := by decide +kernel
  have hreport : b.sort.2.find? "a" = some ⟨"a", 1, 1, 2, []⟩ := by decide +kernel
  obtain ⟨haccounts, hmatches⟩ := sorting_accounts_for_triggers .standard operations
  obtain ⟨listing, report, hlisting, hfound, haccounts⟩ := haccounts "a" 0 hfind
  obtain rfl : report = _ := Option.some.inj (hfound.symm.trans hreport)
  have hlimit : b.options.limit = 50 := congrArg Options.limit (options_run (new .standard) _)
  rw [hlimit] at haccounts
  refine ⟨⟨listing, hlisting, haccounts⟩, ?_⟩
  have hsorted : (b.graph.topic 0).sorted = some ⟨[⟨0, 0⟩], [⟨1, 0⟩]⟩ := by
    decide +kernel
  have hcondition : (b.graph.trigger 1).previous = some ⟨[.literal "hello"], 0⟩ := by
    decide +kernel
  have hprevious : Pattern.align b.arrays ⟨[.literal "hello"], 0⟩ (Message.read "Hello!") =
      some [] := by
    rw [Pattern.align, Alignment.found_run]
    decide +kernel
  have halign : (b.graph.trigger 1).pattern.align b.arrays (Message.read "you") =
      some ["you"] := by
    rw [Pattern.align, Alignment.found_run]
    decide +kernel
  have hmatch := matchMessage_of_contextual hfind hsorted rfl hcondition hprevious halign
  obtain ⟨htold, _⟩ := hmatches "a" "you" (some "Hello!") m hmatch
  refine ⟨hmatch, ?_⟩
  rw [htold]
  decide +kernel

end Bot
end Parley
