import Mathlib.Data.List.Nodup
import Parley.Proofs.Topic.Collapse
import Parley.Proofs.Topic.Ranks
import Parley.Topic.Sorting

/-!
# Routes and what they make visible

A route follows edges from a topic and may meet topics repeatedly. The walk of the resolver cuts
each route where it comes back to its own path. A trail is a route that is cut only by its last
edge, and every route has a trail with the same last edge that is no longer and has no more inherit
edges. So the cut changes no least depth, and after collapsing the walk sees what all routes see.
-/
namespace Parley

/-- The entries of one kind in a population. -/
def Graph.Population.entries (population : Graph.Population) : Kind → List Entry
  | .plain => population.plain
  | .previous => population.previous

namespace Graph

/-- Edges lead from `s` to a topic: how many there are, how many of them are inherit edges, and
whether the last one is. -/
inductive Route (g : Graph) (s : TopicId) : (length inheritance : Nat) → (inherited : Bool) →
    TopicId → Prop
  | start : Route g s 0 0 false s
  | includes {n i : Nat} {b : Bool} {u v : TopicId} :
    Route g s n i b u → v ∈ (g.topic u).includes → Route g s (n + 1) i false v
  | inherits {n i : Nat} {b : Bool} {u v : TopicId} :
    Route g s n i b u → v ∈ (g.topic u).inherits → Route g s (n + 1) (i + 1) true v

/-- A route of at most `limit` edges ends at `v` with this tag: the number of its inherit edges if
the topic has inherit edges or was reached by one, and zero otherwise. -/
def Tagged (g : Graph) (limit : Nat) (s v : TopicId) (tag : Nat) : Prop :=
  ∃ length inheritance inherited, g.Route s length inheritance inherited v ∧ length ≤ limit ∧
    tag = if (g.topic v).inherits ≠ [] ∨ inherited = true then inheritance else 0

/-- A route of at most `limit` edges leads to a topic that owns the trigger of the entry, with the
depth of the entry as its tag. -/
def Yields (g : Graph) (limit : Nat) (s : TopicId) (kind : Kind) (entry : Entry) : Prop :=
  ∃ v, entry.trigger ∈ (g.topic v).triggers ∧ (g.trigger entry.trigger).kind = kind ∧
    g.Tagged limit s v entry.depth

/-- The walk without the cut at topics on its own path. -/
def uncutWalk (g : Graph) :
    (budget inheritance : Nat) → (inherited : Bool) → (topic : TopicId) → List Visit
  | 0, _, _, topic => [.met (.depthExceeded (g.topic topic).name)]
  | budget + 1, inheritance, inherited, topic =>
    (g.topic topic).includes.flatMap (uncutWalk g budget inheritance false) ++
      (g.topic topic).inherits.flatMap (uncutWalk g budget (inheritance + 1) true) ++
      [.listed topic (g.tag topic inheritance inherited)]

def uncutVisits (g : Graph) (limit : Nat) (s : TopicId) : List Visit :=
  g.uncutWalk (limit + 1) 0 false s

theorem tag_eq (g : Graph) (v : TopicId) (inheritance : Nat) (inherited : Bool) :
    g.tag v inheritance inherited =
      if (g.topic v).inherits ≠ [] ∨ inherited = true then inheritance else 0 := by
  cases h : (g.topic v).inherits <;> cases inherited <;> simp [tag, h]

theorem listed_mem_uncutWalk_of_mem_walk {g : Graph} {v : TopicId} {t : Nat} {budget : Nat}
    {path : List TopicId} {inheritance : Nat} {inherited : Bool} {topic : TopicId}
    (h : Visit.listed v t ∈ g.walk budget path inheritance inherited topic) :
    Visit.listed v t ∈ g.uncutWalk budget inheritance inherited topic := by
  induction budget generalizing path inheritance inherited topic with
  | zero => simp [walk] at h
  | succ budget ih =>
    simp only [uncutWalk, List.mem_append, List.mem_flatMap, List.mem_singleton]
    simp only [walk] at h
    split at h
    · exact .inr (by simpa using h)
    · simp only [List.mem_append, List.mem_flatMap, List.mem_singleton] at h
      obtain (⟨next, hnext, h⟩ | ⟨next, hnext, h⟩) | h := h
      · exact .inl (.inl ⟨next, hnext, ih h⟩)
      · exact .inl (.inr ⟨next, hnext, ih h⟩)
      · exact .inr h

theorem tagged_of_mem_uncutWalk {g : Graph} {limit : Nat} {s v : TopicId} {t : Nat}
    {budget n inheritance : Nat} {inherited : Bool} {topic : TopicId}
    (hroute : g.Route s n inheritance inherited topic) (hbudget : n + budget = limit + 1)
    (h : Visit.listed v t ∈ g.uncutWalk budget inheritance inherited topic) :
    g.Tagged limit s v t := by
  induction budget generalizing n inheritance inherited topic with
  | zero => simp [uncutWalk] at h
  | succ budget ih =>
    simp only [uncutWalk, List.mem_append, List.mem_flatMap, List.mem_singleton] at h
    obtain (⟨next, hnext, h⟩ | ⟨next, hnext, h⟩) | h := h
    · exact ih (.includes hroute hnext) (by omega) h
    · exact ih (.inherits hroute hnext) (by omega) h
    · obtain ⟨rfl, rfl⟩ := Visit.listed.inj h
      exact ⟨n, inheritance, inherited, hroute, by omega, tag_eq ..⟩

theorem uncutWalk_subset_of_route {g : Graph} {limit : Nat} {s v : TopicId}
    {n inheritance : Nat} {inherited : Bool} (hroute : g.Route s n inheritance inherited v)
    (hn : n ≤ limit) :
    g.uncutWalk (limit + 1 - n) inheritance inherited v ⊆ g.uncutVisits limit s := by
  induction hroute with
  | start => exact List.Subset.refl _
  | @includes n i b u v _ hv ih =>
    refine List.Subset.trans (fun visit hvisit => ?_) (ih (by omega))
    rw [show limit + 1 - n = limit + 1 - (n + 1) + 1 by omega, uncutWalk]
    simp only [List.mem_append, List.mem_flatMap]
    exact .inl (.inl ⟨v, hv, hvisit⟩)
  | @inherits n i b u v _ hv ih =>
    refine List.Subset.trans (fun visit hvisit => ?_) (ih (by omega))
    rw [show limit + 1 - n = limit + 1 - (n + 1) + 1 by omega, uncutWalk]
    simp only [List.mem_append, List.mem_flatMap]
    exact .inl (.inr ⟨v, hv, hvisit⟩)

theorem listed_mem_uncutVisits_iff {g : Graph} {limit : Nat} {s v : TopicId} {t : Nat} :
    Visit.listed v t ∈ g.uncutVisits limit s ↔ g.Tagged limit s v t := by
  constructor
  · intro h
    exact tagged_of_mem_uncutWalk .start (Nat.zero_add _) h
  · rintro ⟨n, inheritance, inherited, hroute, hn, rfl⟩
    apply uncutWalk_subset_of_route hroute hn
    rw [show limit + 1 - n = limit - n + 1 by omega, uncutWalk, ← tag_eq]
    simp

/-- A route whose topics before the last one are all different; `path` lists them, latest first. -/
inductive Trail (g : Graph) (s : TopicId) : (path : List TopicId) → (inheritance : Nat) →
    (inherited : Bool) → TopicId → Prop
  | start : Trail g s [] 0 false s
  | includes {path : List TopicId} {i : Nat} {b : Bool} {u v : TopicId} :
    Trail g s path i b u → u ∉ path → v ∈ (g.topic u).includes → Trail g s (u :: path) i false v
  | inherits {path : List TopicId} {i : Nat} {b : Bool} {u v : TopicId} :
    Trail g s path i b u → u ∉ path → v ∈ (g.topic u).inherits →
      Trail g s (u :: path) (i + 1) true v

/-- A topic on the path of a trail was reached before by a shorter one. -/
theorem Trail.exists_shorter {g : Graph} {s u v : TopicId} {path : List TopicId} {i : Nat}
    {b : Bool} (h : g.Trail s path i b v) (hu : u ∈ path) :
    ∃ path' i' b', g.Trail s path' i' b' u ∧ u ∉ path' ∧ path'.length < path.length ∧ i' ≤ i := by
  induction h with
  | start => cases hu
  | @includes path i b w v htrail hw hv ih =>
    obtain rfl | hu := List.mem_cons.mp hu
    · exact ⟨path, i, b, htrail, hw, Nat.lt_succ_self _, Nat.le_refl _⟩
    · obtain ⟨path', i', b', htrail', hfresh, hlength, hi⟩ := ih hu
      exact ⟨path', i', b', htrail', hfresh, Nat.lt_succ_of_lt hlength, hi⟩
  | @inherits path i b w v htrail hw hv ih =>
    obtain rfl | hu := List.mem_cons.mp hu
    · exact ⟨path, i, b, htrail, hw, Nat.lt_succ_self _, Nat.le_succ _⟩
    · obtain ⟨path', i', b', htrail', hfresh, hlength, hi⟩ := ih hu
      exact ⟨path', i', b', htrail', hfresh, Nat.lt_succ_of_lt hlength, Nat.le_succ_of_le hi⟩

/-- Without its loops a trail ends at a topic that it has not met before. -/
theorem Trail.exists_fresh {g : Graph} {s v : TopicId} {path : List TopicId} {i : Nat} {b : Bool}
    (h : g.Trail s path i b v) :
    ∃ path' i' b', g.Trail s path' i' b' v ∧ v ∉ path' ∧ path'.length ≤ path.length ∧ i' ≤ i := by
  by_cases hv : v ∈ path
  · obtain ⟨path', i', b', htrail, hfresh, hlength, hi⟩ := h.exists_shorter hv
    exact ⟨path', i', b', htrail, hfresh, Nat.le_of_lt hlength, hi⟩
  · exact ⟨path, i, b, h, hv, Nat.le_refl _, Nat.le_refl _⟩

/-- Erasing the loops of a route before its last edge gives a trail with the same last edge. -/
theorem Route.exists_trail {g : Graph} {s v : TopicId} {n i : Nat} {b : Bool}
    (h : g.Route s n i b v) :
    ∃ path i', g.Trail s path i' b v ∧ path.length ≤ n ∧ i' ≤ i := by
  induction h with
  | start => exact ⟨[], 0, .start, Nat.le_refl _, Nat.le_refl _⟩
  | includes _ hv ih =>
    obtain ⟨path, i, htrail, hlength, hi⟩ := ih
    obtain ⟨path', i', b', htrail', hfresh, hlength', hi'⟩ := htrail.exists_fresh
    exact ⟨_, i', .includes htrail' hfresh hv, Nat.succ_le_succ (Nat.le_trans hlength' hlength),
      Nat.le_trans hi' hi⟩
  | inherits _ hv ih =>
    obtain ⟨path, i, htrail, hlength, hi⟩ := ih
    obtain ⟨path', i', b', htrail', hfresh, hlength', hi'⟩ := htrail.exists_fresh
    exact ⟨_, i' + 1, .inherits htrail' hfresh hv,
      Nat.succ_le_succ (Nat.le_trans hlength' hlength), Nat.succ_le_succ (Nat.le_trans hi' hi)⟩

theorem walk_subset_of_trail {g : Graph} {limit : Nat} {s v : TopicId} {path : List TopicId}
    {inheritance : Nat} {inherited : Bool} (htrail : g.Trail s path inheritance inherited v)
    (hlength : path.length ≤ limit) :
    g.walk (limit + 1 - path.length) path inheritance inherited v ⊆ g.visits limit s := by
  induction htrail with
  | start => exact List.Subset.refl _
  | @includes path i b u v _ hu hv ih =>
    rw [List.length_cons] at hlength ⊢
    refine List.Subset.trans (fun visit hvisit => ?_) (ih (by omega))
    rw [show limit + 1 - path.length = limit + 1 - (path.length + 1) + 1 by omega, walk]
    simp only [List.contains_iff_mem, hu, if_false, List.mem_append, List.mem_flatMap]
    exact .inl (.inl ⟨v, hv, hvisit⟩)
  | @inherits path i b u v _ hu hv ih =>
    rw [List.length_cons] at hlength ⊢
    refine List.Subset.trans (fun visit hvisit => ?_) (ih (by omega))
    rw [show limit + 1 - path.length = limit + 1 - (path.length + 1) + 1 by omega, walk]
    simp only [List.contains_iff_mem, hu, if_false, List.mem_append, List.mem_flatMap]
    exact .inl (.inr ⟨v, hv, hvisit⟩)

/-- The end of a trail is listed, also where the walk stops at it. -/
theorem listed_mem_visits_of_trail {g : Graph} {limit : Nat} {s v : TopicId}
    {path : List TopicId} {inheritance : Nat} {inherited : Bool}
    (htrail : g.Trail s path inheritance inherited v) (hlength : path.length ≤ limit) :
    Visit.listed v (g.tag v inheritance inherited) ∈ g.visits limit s := by
  apply walk_subset_of_trail htrail hlength
  rw [show limit + 1 - path.length = limit - path.length + 1 by omega, walk]
  split <;> simp

theorem tag_le_tag (g : Graph) (v : TopicId) (inherited : Bool) {i i' : Nat} (h : i' ≤ i) :
    g.tag v i' inherited ≤ g.tag v i inherited := by
  unfold tag
  split
  · exact h
  · exact Nat.le_refl _

theorem tagged_of_listed_mem_visits {g : Graph} {limit : Nat} {s v : TopicId} {t : Nat}
    (h : Visit.listed v t ∈ g.visits limit s) : g.Tagged limit s v t :=
  listed_mem_uncutVisits_iff.mp (listed_mem_uncutWalk_of_mem_walk h)

/-- For every route the walk lists its end with a tag that is no greater. -/
theorem exists_listed_of_tagged {g : Graph} {limit : Nat} {s v : TopicId} {t : Nat}
    (h : g.Tagged limit s v t) : ∃ t' ≤ t, Visit.listed v t' ∈ g.visits limit s := by
  obtain ⟨n, i, b, hroute, hn, rfl⟩ := h
  obtain ⟨path, i', htrail, hlength, hi⟩ := hroute.exists_trail
  refine ⟨g.tag v i' b, ?_, listed_mem_visits_of_trail htrail (Nat.le_trans hlength hn)⟩
  rw [← tag_eq]
  exact tag_le_tag g v b hi

theorem entries_populationOf (g : Graph) (visits : List Visit) (kind : Kind) :
    (g.populationOf visits).entries kind = visits.flatMap (Visit.entries g kind) := by
  cases kind <;> rfl

theorem mem_entries_populationOf {g : Graph} {visits : List Visit} {kind : Kind} {e : Entry} :
    e ∈ (g.populationOf visits).entries kind ↔
      ∃ v, e.trigger ∈ (g.topic v).triggers ∧ (g.trigger e.trigger).kind = kind ∧
        Visit.listed v e.depth ∈ visits := by
  rw [entries_populationOf, List.mem_flatMap]
  constructor
  · intro h
    obtain ⟨visit, hvisit, he⟩ := h
    cases visit with
    | met issue => cases he
    | listed v tag =>
      simp only [Visit.entries, List.mem_map, List.mem_filter, beq_iff_eq] at he
      obtain ⟨id, ⟨hid, hkind⟩, rfl⟩ := he
      exact ⟨v, hid, hkind, hvisit⟩
  · intro h
    obtain ⟨v, htrigger, hkind, hvisit⟩ := h
    refine ⟨_, hvisit, ?_⟩
    simp only [Visit.entries, List.mem_map, List.mem_filter, beq_iff_eq]
    exact ⟨e.trigger, ⟨htrigger, hkind⟩, rfl⟩

theorem mem_entries_uncut_iff {g : Graph} {limit : Nat} {s : TopicId} {kind : Kind} {e : Entry} :
    e ∈ (g.populationOf (g.uncutVisits limit s)).entries kind ↔ g.Yields limit s kind e := by
  simp only [mem_entries_populationOf, listed_mem_uncutVisits_iff, Yields]

theorem yields_of_mem_population {g : Graph} {limit : Nat} {s : TopicId} {kind : Kind}
    {e : Entry} (h : e ∈ (g.population limit s).entries kind) : g.Yields limit s kind e := by
  obtain ⟨v, htrigger, hkind, hvisit⟩ := mem_entries_populationOf.mp h
  exact ⟨v, htrigger, hkind, tagged_of_listed_mem_visits hvisit⟩

theorem exists_mem_population_of_yields {g : Graph} {limit : Nat} {s : TopicId} {kind : Kind}
    {e : Entry} (h : g.Yields limit s kind e) :
    ∃ e' ∈ (g.population limit s).entries kind, e'.trigger = e.trigger ∧ e'.depth ≤ e.depth := by
  obtain ⟨v, htrigger, hkind, htagged⟩ := h
  obtain ⟨t, ht, hvisit⟩ := exists_listed_of_tagged htagged
  exact ⟨⟨e.trigger, t⟩, mem_entries_populationOf.mpr ⟨v, htrigger, hkind, hvisit⟩, rfl, ht⟩

/-- What a topic sees of one kind, each trigger once. -/
def visible (g : Graph) (limit : Nat) (kind : Kind) (s : TopicId) : List Entry :=
  (Entry.collapse ((g.population limit s).entries kind)).entries

theorem nodup_visible (g : Graph) (limit : Nat) (kind : Kind) (s : TopicId) :
    ((g.visible limit kind s).map Entry.trigger).Nodup :=
  Entry.nodup_map_trigger_distinct _

/-- The collapsed population holds the least depth that any route gives to a trigger. -/
theorem mem_visible_iff {g : Graph} {limit : Nat} {kind : Kind} {s : TopicId} {e : Entry} :
    e ∈ g.visible limit kind s ↔ g.Yields limit s kind e ∧
      ∀ tag, g.Yields limit s kind ⟨e.trigger, tag⟩ → e.depth ≤ tag := by
  rw [visible, Entry.entries_collapse, Entry.mem_distinct_iff]
  constructor
  · intro h
    refine ⟨yields_of_mem_population h.mem, fun tag hyields => ?_⟩
    obtain ⟨e', hmem, hsame, hle⟩ := exists_mem_population_of_yields hyields
    exact Nat.le_trans (h.least e' hmem hsame) hle
  · rintro ⟨hyields, hleast⟩
    obtain ⟨e', hmem, hsame, hle⟩ := exists_mem_population_of_yields hyields
    have hle' : e.depth ≤ e'.depth := by
      apply hleast
      rw [← hsame]
      exact yields_of_mem_population hmem
    have heq : e' = e := Entry.ext hsame (Nat.le_antisymm hle hle')
    refine ⟨heq ▸ hmem, fun other hother htrigger => hleast _ ?_⟩
    rw [← htrigger]
    exact yields_of_mem_population hother

theorem mem_collapse_uncut_iff {g : Graph} {limit : Nat} {kind : Kind} {s : TopicId} {e : Entry} :
    e ∈ (Entry.collapse ((g.populationOf (g.uncutVisits limit s)).entries kind)).entries ↔
      e ∈ g.visible limit kind s := by
  rw [Entry.entries_collapse, Entry.mem_distinct_iff, mem_visible_iff]
  constructor
  · intro h
    exact ⟨mem_entries_uncut_iff.mp h.mem, fun tag hyields =>
      h.least ⟨e.trigger, tag⟩ (mem_entries_uncut_iff.mpr hyields) rfl⟩
  · rintro ⟨hyields, hleast⟩
    refine ⟨mem_entries_uncut_iff.mpr hyields, fun other hother htrigger => hleast _ ?_⟩
    rw [← htrigger]
    exact mem_entries_uncut_iff.mp hother

/-- Sorting what all routes make visible gives the listing of the cut walk. -/
theorem sortEntries_uncut (g : Graph) (limit : Nat) (kind : Kind) (s : TopicId) :
    g.sortEntries kind
        (Entry.collapse ((g.populationOf (g.uncutVisits limit s)).entries kind)).entries =
      g.sortEntries kind (g.visible limit kind s) := by
  apply sortEntries_congr
  rw [Entry.entries_collapse,
    List.perm_ext_iff_of_nodup (.of_map _ (Entry.nodup_map_trigger_distinct _))
      (.of_map _ (g.nodup_visible limit kind s))]
  intro e
  exact mem_collapse_uncut_iff

/-- The collapsed population holds each trigger once. It holds those that a route of at most
`limit` edges leads to, with the least tag of all such routes, and its listing is that of the walk
without the cut. -/
theorem population_follows_routes (g : Graph) (limit : Nat) (s : TopicId) (kind : Kind) :
    let entries := (Entry.collapse ((g.population limit s).entries kind)).entries
    let uncut := (Entry.collapse ((g.populationOf (g.uncutVisits limit s)).entries kind)).entries
    (entries.map Entry.trigger).Nodup ∧
    (∀ trigger, trigger ∈ entries.map Entry.trigger ↔
      ∃ tag, g.Yields limit s kind ⟨trigger, tag⟩) ∧
    (∀ e ∈ entries, g.Yields limit s kind e ∧
      ∀ tag, g.Yields limit s kind ⟨e.trigger, tag⟩ → e.depth ≤ tag) ∧
    g.sortEntries kind entries = g.sortEntries kind uncut := by
  refine ⟨g.nodup_visible limit kind s, fun trigger => ?_, fun e he => mem_visible_iff.mp he,
    (g.sortEntries_uncut limit kind s).symm⟩
  rw [Entry.entries_collapse, Entry.mem_map_trigger_distinct, List.mem_map]
  constructor
  · intro h
    obtain ⟨e, he, rfl⟩ := h
    exact ⟨e.depth, yields_of_mem_population he⟩
  · intro h
    obtain ⟨tag, hyields⟩ := h
    obtain ⟨e, he, htrigger, _⟩ := exists_mem_population_of_yields hyields
    exact ⟨e, he, htrigger⟩

end Graph
end Parley
