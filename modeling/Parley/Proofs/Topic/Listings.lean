import Parley.Proofs.Topic.Growth
import Parley.Proofs.Topic.Routes

/-!
# Listings of a sorted graph

The listing of a topic is made from the triggers and the edges alone, so the listings that a graph
holds already do not matter to it, and after sorting every topic holds the listing that could be
made again.
-/
namespace Parley.Graph

/-- Every topic holds the listing that can be made from the graph as it is. -/
def Listed (g : Graph) (limit : Nat) : Prop :=
  ∀ id < g.topics.size, (g.topic id).sorted = some (g.list limit id).1

theorem entries_list (g : Graph) (limit : Nat) (id : TopicId) (kind : Kind) :
    (g.list limit id).1.entries kind = g.sortEntries kind (g.visible limit kind id) := by
  cases kind <;> rfl

theorem walk_unsort (g : Graph) (budget : Nat) (path : List TopicId) (inheritance : Nat)
    (inherited : Bool) (topic : TopicId) :
    g.unsort.walk budget path inheritance inherited topic =
      g.walk budget path inheritance inherited topic := by
  induction budget generalizing path inheritance inherited topic with
  | zero => simp [walk, topic_unsort]
  | succ budget ih =>
    have htag : g.unsort.tag topic inheritance inherited = g.tag topic inheritance inherited := by
      simp [tag, topic_unsort]
    have hnext (path : List TopicId) (inheritance : Nat) (inherited : Bool) :
        g.unsort.walk budget path inheritance inherited =
          g.walk budget path inheritance inherited :=
      funext (ih path inheritance inherited)
    simp only [walk, topic_unsort, htag, hnext]

theorem population_unsort (g : Graph) (limit : Nat) (topic : TopicId) :
    g.unsort.population limit topic = g.population limit topic := by
  have hentries (kind : Kind) : Visit.entries g.unsort kind = Visit.entries g kind := by
    funext visit
    cases visit <;> simp [Visit.entries, topic_unsort]
  simp [population, visits, walk_unsort, populationOf, hentries]

theorem list_unsort (g : Graph) (limit : Nat) (topic : TopicId) :
    g.unsort.list limit topic = g.list limit topic := by
  have hsort (kind : Kind) (entries : List Entry) :
      g.unsort.sortEntries kind entries = g.sortEntries kind entries := rfl
  simp only [list, population_unsort, topic_unsort, hsort]

/-- Graphs that differ in their listings only give every topic the same listing. -/
theorem list_congr {g g' : Graph} (h : g'.unsort = g.unsort) (limit : Nat) (topic : TopicId) :
    g'.list limit topic = g.list limit topic := by
  rw [← list_unsort g', h, list_unsort]

@[simp] theorem size_topics_setListing (g : Graph) (id : TopicId) (listing : Listing) :
    (g.setListing id listing).topics.size = g.topics.size := by
  simp [setListing]

theorem unsort_setListing (g : Graph) (id : TopicId) (listing : Listing) :
    (g.setListing id listing).unsort = g.unsort := by
  refine Graph.ext (Array.ext (by simp) fun i _ _ => ?_) rfl
  simp only [unsort, setListing, modifyTopic, Array.getElem_map, Array.getElem_modify]
  split <;> rfl

theorem sorted_setListing (g : Graph) {id other : TopicId} (listing : Listing)
    (hother : other < g.topics.size) :
    ((g.setListing id listing).topic other).sorted =
      if other = id then some listing else (g.topic other).sorted := by
  split
  · rename_i h
    subst h
    rw [setListing, topic_modifyTopic_self _ _ hother]
  · rename_i h
    rw [setListing, topic_modifyTopic_of_ne _ _ h]

theorem setListings_spec (g : Graph) (listing : TopicId → Listing) (ids : List TopicId) :
    let g' := g.setListings (ids.map fun id => (id, listing id))
    g'.unsort = g.unsort ∧ g'.topics.size = g.topics.size ∧
      ∀ id < g.topics.size, (g'.topic id).sorted =
        if id ∈ ids then some (listing id) else (g.topic id).sorted := by
  induction ids generalizing g with
  | nil => exact ⟨rfl, rfl, fun _ _ => by simp [setListings]⟩
  | cons first ids ih =>
    obtain ⟨hunsort, hsize, hsorted⟩ := ih (g.setListing first (listing first))
    rw [size_topics_setListing] at hsize hsorted
    refine ⟨hunsort.trans (unsort_setListing ..), hsize, fun id hid => ?_⟩
    refine (hsorted id hid).trans ?_
    rw [sorted_setListing _ _ hid]
    by_cases hids : id ∈ ids
    · simp [hids]
    · by_cases hfirst : id = first
      · simp [hfirst]
      · simp [hids, hfirst]

theorem sort_fst (g : Graph) (limit : Nat) :
    (g.sort limit).1 = g.setListings (g.topicIds.map fun id => (id, (g.list limit id).1)) := by
  simp [sort, Function.comp_def]

/-- Sorting changes the listings only. -/
theorem unsort_sort (g : Graph) (limit : Nat) : (g.sort limit).1.unsort = g.unsort := by
  rw [sort_fst]
  exact (setListings_spec g (fun id => (g.list limit id).1) g.topicIds).1

theorem size_topics_sort (g : Graph) (limit : Nat) :
    (g.sort limit).1.topics.size = g.topics.size := by
  rw [sort_fst]
  exact (setListings_spec g (fun id => (g.list limit id).1) g.topicIds).2.1

theorem listed_sort (g : Graph) (limit : Nat) : (g.sort limit).1.Listed limit := by
  intro id hid
  rw [size_topics_sort] at hid
  rw [list_congr (unsort_sort g limit), sort_fst]
  refine ((setListings_spec g (fun id => (g.list limit id).1) g.topicIds).2.2 id hid).trans ?_
  rw [if_pos (by simpa [topicIds] using hid)]

end Parley.Graph
