import Mathlib.Data.List.Induction
import Parley.Proofs.Bot.Runs
import Parley.Proofs.Topic.Listings

/-!
# Listings are never stale

A listing that a topic holds is the one that sorting would make again, in every state that a run
of operations reaches. All topics hold one or none does, and they hold none exactly when something
was touched after the last time the bot was sorted.
-/
namespace Parley.Bot

/-- An operation creates a topic, adds an edge that was not there or registers a trigger. -/
def Touches (b : Bot) (operation : Operation) : Prop :=
  b.graph.Gains (b.step operation).graph ∨ b.Registers operation

/-- In a run from `b` something is touched, and the bot is not sorted after that. -/
def TouchedSinceSort (b : Bot) (operations : List Operation) : Prop :=
  ∃ before operation after, operations = before ++ operation :: after ∧
    (b.run before).Touches operation ∧ .sort ∉ after

/-- An operation that fails, repeats an edge between known topics or defines an array. -/
def Harmless (b : Bot) : Operation → Prop
  | .register topic text responses previous =>
    ∃ error, (b.register topic text responses previous).2 = .error error
  | .addEdge relation topic other => ∃ id otherId, b.graph.find? topic = some id ∧
    b.graph.find? other = some otherId ∧ otherId ∈ (b.graph.topic id).edges relation
  | .defineArray _ _ => True
  | .load source => ∃ error, (b.load source).2 = .error error
  | .sort => False

theorem graph_step_of_harmless {b : Bot} {operation : Operation} (h : b.Harmless operation) :
    (b.step operation).graph = b.graph := by
  cases operation with
  | register topic text responses previous =>
    obtain ⟨error, h⟩ := h
    rw [step, fst_register_of_error h]
  | addEdge relation topic other =>
    obtain ⟨id, otherId, hid, hother, h⟩ := h
    rw [step, addEdge_of_known hid hother h]
  | defineArray name entries => rfl
  | load source =>
    obtain ⟨error, h⟩ := h
    rw [step, fst_load_of_error h]
  | sort => cases h

theorem not_touches_sort (b : Bot) : ¬ b.Touches .sort := by
  intro h
  obtain hgains | hregisters := h
  · rw [← Graph.gains_unsort] at hgains
    have hunsort : (b.step .sort).graph.unsort = b.graph.unsort :=
      b.graph.unsort_sort b.options.limit
    rw [hunsort] at hgains
    exact Graph.not_gains_self _ hgains
  · exact hregisters

theorem touchedSinceSort_append_singleton (b : Bot) (operations : List Operation)
    (operation : Operation) :
    b.TouchedSinceSort (operations ++ [operation]) ↔
      operation ≠ .sort ∧ ((b.run operations).Touches operation ∨
        b.TouchedSinceSort operations) := by
  constructor
  · intro h
    obtain ⟨before, touching, after, heq, htouches, hsort⟩ := h
    obtain rfl | ⟨after, last, rfl⟩ := List.eq_nil_or_concat after
    · obtain ⟨rfl, hlast⟩ := List.append_inj' heq rfl
      obtain rfl : operation = touching := by simpa using hlast
      refine ⟨?_, .inl htouches⟩
      rintro rfl
      exact not_touches_sort _ htouches
    · rw [List.concat_eq_append] at heq hsort
      rw [← List.cons_append, ← List.append_assoc] at heq
      obtain ⟨rfl, hlast⟩ := List.append_inj' heq rfl
      obtain rfl : operation = last := by simpa using hlast
      simp only [List.mem_append, List.mem_singleton, not_or] at hsort
      exact ⟨Ne.symm hsort.2, .inr ⟨before, touching, after, rfl, htouches, hsort.1⟩⟩
  · intro h
    obtain ⟨hne, htouches | ⟨before, touching, after, rfl, htouches, hsort⟩⟩ := h
    · exact ⟨operations, operation, [], rfl, htouches, by simp⟩
    · refine ⟨before, touching, after ++ [operation], by simp, htouches, ?_⟩
      simp [hsort, Ne.symm hne]

/-- After a run no topic holds a listing if something was touched since the bot was sorted, and
otherwise every topic holds the one that can be made again. -/
theorem listed_or_unsorted_run (options : Options) (operations : List Operation) :
    let b := (new options).run operations
    ((new options).TouchedSinceSort operations → b.graph.Unsorted) ∧
      (¬ (new options).TouchedSinceSort operations → b.graph.Listed b.options.limit) := by
  induction operations using List.reverseRecOn with
  | nil =>
    constructor
    · rintro ⟨before, operation, after, h, _⟩
      simp at h
    · intro _ id hid
      cases hid
  | append_singleton operations operation ih =>
    obtain ⟨hunsorted, hlisted⟩ := ih
    simp only [run_append_singleton, touchedSinceSort_append_singleton]
    generalize (new options).run operations = b at *
    by_cases hsort : operation = .sort
    · subst hsort
      exact ⟨fun h => absurd rfl h.1, fun _ => b.graph.listed_sort b.options.limit⟩
    · have hevolves := evolves_step (b := b) hsort
      constructor
      · rintro ⟨_, htouches | hbefore⟩
        · exact hevolves.unsorted_of htouches
        · obtain ⟨heq, _⟩ | ⟨hdropped, _⟩ := hevolves.outcome
          · rw [heq]
            exact hunsorted hbefore
          · exact hdropped
      · intro h
        rw [not_and, not_or] at h
        obtain ⟨hnot, hbefore⟩ := h hsort
        rw [hevolves.eq_of_not (fun h => hnot (.inl h)) fun h => hnot (.inr h), options_step]
        exact hlisted hbefore

theorem listing_of_unknown {b : Bot} {topic : String} (hfind : b.graph.find? topic = none) :
    b.listing topic = .error (.unknownTopic topic) := by
  simp [listing, hfind]

theorem listing_of_sorted_eq_none {b : Bot} {topic : String} {id : TopicId}
    (hfind : b.graph.find? topic = some id) (h : (b.graph.topic id).sorted = none) :
    b.listing topic = .error (.unsorted topic) := by
  simp [listing, hfind, h]

theorem listing_of_sorted_eq_some {b : Bot} {topic : String} {id : TopicId} {l : Listing}
    (hfind : b.graph.find? topic = some id) (h : (b.graph.topic id).sorted = some l) :
    b.listing topic = .ok l := by
  simp [listing, hfind, h]

theorem listing_eq_ok_iff {b : Bot} {topic : String} {l : Listing} : b.listing topic = .ok l ↔
    ∃ id, b.graph.find? topic = some id ∧ (b.graph.topic id).sorted = some l := by
  cases hfind : b.graph.find? topic with
  | none => simp [listing_of_unknown hfind]
  | some id =>
    cases hsorted : (b.graph.topic id).sorted with
    | none => simp [listing_of_sorted_eq_none hfind hsorted, hsorted]
    | some listing => simp [listing_of_sorted_eq_some hfind hsorted, hsorted]

theorem matchMessage_of_listing {b : Bot} {topic : String} {l : Listing}
    (h : b.listing topic = .ok l) (message : String) (previous : Option String) :
    b.matchMessage topic message previous =
      .ok ((b.findHit? l (Message.read message) (previous.map Message.read)).map
        (b.spell (b.graph.idOf topic))) := by
  simp [matchMessage, h, bind, Except.bind, pure, Except.pure]

theorem matchMessage_of_error {b : Bot} {topic : String} {error : Error}
    (h : b.listing topic = .error error) (message : String) (previous : Option String) :
    b.matchMessage topic message previous = .error error := by
  simp [matchMessage, h, bind, Except.bind]

theorem unsorted_error_iff {options : Options} {operations : List Operation} {topic : String}
    {id : TopicId} (hfind : ((new options).run operations).graph.find? topic = some id) :
    let b := (new options).run operations
    ((new options).TouchedSinceSort operations →
      b.listing topic = .error (.unsorted topic)) ∧
    (¬ (new options).TouchedSinceSort operations → ∃ l, b.listing topic = .ok l) := by
  obtain ⟨hunsorted, hlisted⟩ := listed_or_unsorted_run options operations
  refine ⟨fun h => listing_of_sorted_eq_none hfind (hunsorted h id), fun h => ?_⟩
  exact ⟨_, listing_of_sorted_eq_some hfind (hlisted h id (Graph.lt_size_of_find? hfind))⟩

/-- A listing that a topic holds is the one that can be made again. -/
theorem entries_of_held {options : Options} {operations : List Operation} {id : TopicId}
    {listing : Listing}
    (h : (((new options).run operations).graph.topic id).sorted = some listing) (kind : Kind) :
    let b := (new options).run operations
    listing.entries kind = b.graph.sortEntries kind (b.graph.visible b.options.limit kind id) := by
  obtain ⟨hunsorted, hlisted⟩ := listed_or_unsorted_run options operations
  have htouched : ¬ (new options).TouchedSinceSort operations := by
    intro htouched
    rw [hunsorted htouched id] at h
    cases h
  by_cases hid : id < ((new options).run operations).graph.topics.size
  · rw [hlisted htouched id hid, Option.some_inj] at h
    rw [← h]
    exact Graph.entries_list ..
  · rw [Graph.topic_of_size_le (Nat.le_of_not_lt hid)] at h
    cases h

/-- Matching and listing agree on when a known topic is not sorted. -/
theorem unsorted_iff {options : Options} {operations : List Operation} {topic : String}
    {id : TopicId} (hfind : ((new options).run operations).graph.find? topic = some id) :
    let b := (new options).run operations
    (∀ message previous, b.matchMessage topic message previous = .error (.unsorted topic) ↔
      (new options).TouchedSinceSort operations) ∧
    (∀ kind, b.sorted kind topic = .error (.unsorted topic) ↔
      (new options).TouchedSinceSort operations) := by
  obtain ⟨herror, hok⟩ := unsorted_error_iff hfind
  by_cases htouched : (new options).TouchedSinceSort operations
  · have hlisting := herror htouched
    refine ⟨fun message previous => iff_of_true ?_ htouched, fun kind => iff_of_true ?_ htouched⟩
    · exact matchMessage_of_error hlisting message previous
    · rw [sorted, hlisting]
      rfl
  · obtain ⟨l, hlisting⟩ := hok htouched
    refine ⟨fun message previous => iff_of_false ?_ htouched,
      fun kind => iff_of_false ?_ htouched⟩
    · rw [matchMessage_of_listing hlisting]
      simp
    · rw [sorted, hlisting]
      simp [Except.map]

/-- Whatever a run of operations did: all topics hold a listing or none does, a listing is the one
that the graph would give again, a known topic lacks it exactly when something was touched since
the bot was sorted, and operations that fail, repeat edges or define arrays change no listing. -/
theorem listings_never_stale (options : Options) (operations : List Operation) :
    let b := (new options).run operations
    ((∀ id < b.graph.topics.size, (b.graph.topic id).sorted ≠ none) ∨ b.graph.Unsorted) ∧
    (∀ id listing, (b.graph.topic id).sorted = some listing → ∀ kind, listing.entries kind =
      b.graph.sortEntries kind
        (Entry.collapse ((b.graph.population b.options.limit id).entries kind)).entries) ∧
    (∀ topic id, b.graph.find? topic = some id →
      (∀ message previous, b.matchMessage topic message previous = .error (.unsorted topic) ↔
        (new options).TouchedSinceSort operations) ∧
      (∀ kind, b.sorted kind topic = .error (.unsorted topic) ↔
        (new options).TouchedSinceSort operations)) ∧
    (∀ operation, b.Harmless operation → (b.step operation).graph = b.graph) := by
  obtain ⟨hunsorted, hlisted⟩ := listed_or_unsorted_run options operations
  refine ⟨?_, fun id listing => entries_of_held, fun topic id => unsorted_iff,
    fun operation => graph_step_of_harmless⟩
  by_cases htouched : (new options).TouchedSinceSort operations
  · exact .inr (hunsorted htouched)
  · refine .inl fun id hid => ?_
    rw [hlisted htouched id hid]
    simp

end Parley.Bot
