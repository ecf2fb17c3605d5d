import Parley.Proofs.Bot.Accounting
import Parley.Proofs.Bot.Renumbering
import Parley.Proofs.Topic.Frame

/-!
# Topics that have nothing to do with each other

A trigger that is registered in a topic, or an edge that begins there, concerns only the topics from
which edges lead to it. All others list, report and match after the next sorting what they would
have without it, and do so by the same numbers of triggers.
-/
namespace Parley

/-- The topic that an operation adds a trigger or an edge to. -/
def Operation.target? : Operation → Option String
  | .register topic _ _ _ => some topic
  | .addEdge _ topic _ => some topic
  | .defineArray _ _ => none
  | .load _ => none
  | .sort => none

namespace Graph

variable {g : Graph} {Part : TopicId → Prop}

/-- Both ends of an edge are created if need be. -/
theorem agrees_ensure_ensure (g : Graph) (name other : String)
    (hlt : ∀ u, Part u → u < g.topics.size) : g.Agrees ((g.ensure name).ensure other) Part := by
  refine (g.agrees_ensure name hlt).trans (agrees_ensure _ other fun u hu => ?_)
  exact Nat.lt_of_lt_of_le (hlt u hu) (g.evolves_ensure name).within.size

theorem not_part_idOf_ensure_ensure (g : Graph) {name : String} (other : String)
    (hlt : ∀ u, Part u → u < g.topics.size) (hname : ∀ u, g.find? name = some u → ¬ Part u) :
    ¬ Part (((g.ensure name).ensure other).idOf name) := by
  obtain ⟨id, hfind⟩ := g.exists_find?_ensure name
  have hfind' := ((g.ensure name).evolves_ensure other).within.find? hfind
  have hnot := g.not_part_idOf_ensure hlt hname
  rw [idOf_eq hfind] at hnot
  rwa [idOf_eq hfind']

end Graph

namespace Bot

variable {b b' : Bot} {Part : TopicId → Prop} {s : TopicId} {name : String} {operation : Operation}

/-- An operation on a topic outside a part leaves this part of the graph as it is. -/
theorem agrees_step (hfiled : b.graph.Filed) (hlt : ∀ u, Part u → u < b.graph.topics.size)
    (htarget : operation.target? = some name)
    (hname : ∀ u, b.graph.find? name = some u → ¬ Part u) :
    b.graph.Agrees (b.step operation).graph Part := by
  cases operation with
  | register topic text responses previous =>
    obtain rfl : topic = name := Option.some.inj htarget
    cases hread : readPatterns text previous with
    | ok patterns =>
      rw [step, register_of_read hread]
      have hfiled' := Graph.kept_filed.ensure _ topic hfiled
      exact (b.graph.agrees_ensure topic hlt).trans
        (Graph.agrees_addTrigger hfiled' (b.graph.not_part_idOf_ensure hlt hname))
    | error error =>
      rw [step, register_of_error hread]
      exact .of_eq rfl
  | addEdge relation topic other =>
    obtain rfl : topic = name := Option.some.inj htarget
    exact (b.graph.agrees_ensure_ensure topic other hlt).trans
      (Graph.agrees_addEdge _ relation _ (b.graph.not_part_idOf_ensure_ensure other hlt hname))
  | defineArray name entries => cases htarget
  | load source => cases htarget
  | sort => cases htarget

/-- Only definitions of arrays and scripts concern the arrays. -/
theorem arrays_step (htarget : operation.target? = some name) :
    (b.step operation).arrays = b.arrays := by
  cases operation with
  | register topic text responses previous =>
    exact b.arrays_register topic text responses previous
  | addEdge relation topic other => rfl
  | defineArray name entries => cases htarget
  | load source => cases htarget
  | sort => cases htarget

theorem exists_mem_of_findHit? {listing : Listing} {message : List Word}
    {reply : Option (List Word)} {hit : Hit} (h : b.findHit? listing message reply = some hit) :
    ∃ kind, hit.entry ∈ listing.entries kind := by
  obtain ⟨_, _, e, he, hhit⟩ | ⟨e, he, hhit⟩ := exists_entry_of_findHit? h
  · obtain ⟨_, _, _, _, _, _, rfl⟩ := Hit.contextual?_eq_some_iff.mp hhit
    exact ⟨.previous, he⟩
  · obtain ⟨_, _, rfl⟩ := Hit.plain?_eq_some_iff.mp hhit
    exact ⟨.plain, he⟩

theorem findSome?_congr {α β : Type} {items : List α} {f f' : α → Option β}
    (h : ∀ item ∈ items, f' item = f item) : items.findSome? f' = items.findSome? f := by
  induction items with
  | nil => rfl
  | cons item items ih =>
    obtain ⟨hitem, hitems⟩ := List.forall_mem_cons.mp h
    rw [List.findSome?_cons, List.findSome?_cons, hitem, ih hitems]

section Agrees
variable (h : b.graph.Agrees b'.graph Part) {listing : Listing}
  (howned : ∀ kind, ∀ e ∈ listing.entries kind, b.graph.Owned Part e.trigger)
include h howned

theorem findHit?_of_agrees (harrays : b'.arrays = b.arrays) (message : List Word)
    (reply : Option (List Word)) :
    b'.findHit? listing message reply = b.findHit? listing message reply := by
  have hplain : ∀ e ∈ listing.plain,
      Hit.plain? b'.graph b'.arrays message e = Hit.plain? b.graph b.arrays message e := by
    intro e he
    rw [Hit.plain?, Hit.plain?, h.trigger _ (howned .plain e he), harrays]
  have hcontextual (words : List Word) : ∀ e ∈ listing.previous,
      Hit.contextual? b'.graph b'.arrays message words e =
        Hit.contextual? b.graph b.arrays message words e := by
    intro e he
    rw [Hit.contextual?, Hit.contextual?, h.trigger _ (howned .previous e he), harrays]
  rw [findHit?_eq_or, findHit?_eq_or, findSome?_congr hplain]
  refine congrArg (Option.or · _) (Option.bind_congr fun words _ => ?_)
  exact findSome?_congr (hcontextual words)

theorem spell_of_agrees (hfiled : b.graph.Filed) (hs : Part s) {hit : Hit} {kind : Kind}
    (hentry : hit.entry ∈ listing.entries kind) : b'.spell s hit = b.spell s hit := by
  have hmine : b.graph.Owned Part hit.entry.trigger := howned kind _ hentry
  have howner : Part (b.graph.trigger hit.entry.trigger).topic := by
    obtain ⟨u, hu, hmem⟩ := hmine
    rwa [(hfiled.mem_iff.mp hmem).2]
  rw [spell, spell, h.trigger _ hmine, h.name hs, h.name howner]

/-- Where two bots hold one listing, and agree on all that it refers to, their matches are the
same. -/
theorem matchMessage_of_agrees (hfiled : b.graph.Filed) (harrays : b'.arrays = b.arrays)
    {topic : String} (hs : Part s) (hfind : b.graph.find? topic = some s)
    (hfind' : b'.graph.find? topic = some s) (hlisting : b.listing topic = .ok listing)
    (hlisting' : b'.listing topic = .ok listing) (message : String) (previous : Option String) :
    b'.matchMessage topic message previous = b.matchMessage topic message previous := by
  rw [matchMessage_of_listing hlisting, matchMessage_of_listing hlisting', Graph.idOf_eq hfind,
    Graph.idOf_eq hfind', findHit?_of_agrees h howned harrays]
  refine congrArg Except.ok (Option.map_congr fun hit hhit => ?_)
  obtain ⟨kind, hentry⟩ := exists_mem_of_findHit? hhit
  exact spell_of_agrees h howned hfiled hs hentry

end Agrees

/-- Whatever a run of operations did, take a topic from which no edges lead to another one. A
trigger or an edge that this other one gets does not change what the topic lists, reports and
matches once the bot is sorted. -/
theorem unrelated_topics_do_not_interfere (options : Options) (operations : List Operation)
    {topic : String} {id : TopicId}
    (htopic : ((new options).run operations).graph.find? topic = some id)
    (htarget : operation.target? = some name)
    (hunrelated : ∀ u, ((new options).run operations).graph.find? name = some u →
      ¬ ((new options).run operations).graph.Leads id u) :
    let b := (new options).run operations
    let before := b.sort
    let after := (b.step operation).sort
    (∃ listing, before.1.listing topic = .ok listing ∧ after.1.listing topic = .ok listing) ∧
      (∃ report, before.2.find? topic = some report ∧ after.2.find? topic = some report) ∧
      ∀ message previous,
        after.1.matchMessage topic message previous =
          before.1.matchMessage topic message previous := by
  intro b before after
  have hformed : b.graph.WellFormed := wellFormed_run options operations
  have hclosed := b.graph.closed_leads id
  have hself := Graph.Leads.refl b.graph id
  have hlt (u : TopicId) (hu : b.graph.Leads id u) : u < b.graph.topics.size :=
    hformed.toLinked.closed.of_leads (Graph.lt_size_of_find? htopic) hu
  have hstep := agrees_step hformed.toFiled hlt htarget hunrelated
  have hfind := (within_step b operation).find? htopic
  obtain ⟨hlisting, hreport⟩ := listing_sort htopic
  obtain ⟨hlisting', hreport'⟩ := listing_sort hfind
  rw [options_step, hstep.list hformed.toFiled hclosed _ hself] at hlisting' hreport'
  have hsort (b : Bot) : b.sort.1.graph.unsort = b.graph.unsort := b.graph.unsort_sort _
  have hunsorted : before.1.graph.Agrees b.graph (b.graph.Leads id) := .of_unsort_eq (hsort b).symm
  have hagrees := hunsorted.trans (hstep.trans (.of_unsort_eq (hsort (b.step operation))))
  have howned (kind : Kind) (e : Entry)
      (he : e ∈ (b.graph.list b.options.limit id).1.entries kind) :
      before.1.graph.Owned (b.graph.Leads id) e.trigger := by
    rw [Graph.entries_list, Graph.mem_sortEntries] at he
    have howned := (hstep.renumbers hformed.toFiled hclosed).owned_of_mem_visible hself he
    exact (Graph.Agrees.of_unsort_eq (hsort b)).owned howned
  refine ⟨⟨_, hlisting, hlisting'⟩, ⟨_, hreport, hreport'⟩, ?_⟩
  exact matchMessage_of_agrees hagrees howned (Graph.kept_filed.sort _ _ hformed.toFiled)
    (arrays_step htarget) hself ((b.graph.within_sort _).find? htopic)
    (((b.step operation).graph.within_sort _).find? hfind) hlisting hlisting'

/-- A topic that includes another one is left alone by an edge from a third topic to the included
one. -/
theorem unrelated_topics_do_not_interfere_shared :
    let operations := [.register "sea" "ahoy *" ["aye"] none, .addEdge .includes "sea" "land",
      .register "land" "*" ["so it is"] none, .register "sky" "look up" ["high"] none]
    let b := (new .standard).run operations
    let before := b.sort.1
    let after := (b.step (.addEdge .includes "sky" "land")).sort.1
    b.graph.find? "sea" = some 0 ∧ b.graph.find? "sky" = some 2 ∧ ¬ b.graph.Leads 0 2 ∧
      ∀ message previous, after.matchMessage "sea" message previous =
        before.matchMessage "sea" message previous := by
  intro operations b before after
  have hsea : b.graph.find? "sea" = some 0 := by decide +kernel
  have hsky : b.graph.find? "sky" = some 2 := by decide +kernel
  have hunrelated : ¬ b.graph.Leads 0 2 := by
    have hclosed : b.graph.Closed (· < 2) := by
      unfold Graph.Closed
      decide +kernel
    intro hleads
    exact absurd (hclosed.of_leads (by decide) hleads) (by decide)
  have hnone (u : TopicId) (hu : b.graph.find? "sky" = some u) : ¬ b.graph.Leads 0 u := by
    rw [hsky] at hu
    rwa [← Option.some.inj hu]
  have htarget : (Operation.addEdge .includes "sky" "land").target? = some "sky" := rfl
  obtain ⟨_, _, hmatches⟩ :=
    unrelated_topics_do_not_interfere .standard operations hsea htarget hnone
  exact ⟨hsea, hsky, hunrelated, hmatches⟩

end Bot
end Parley
