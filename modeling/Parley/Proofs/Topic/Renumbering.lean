import Mathlib.Data.List.Nodup
import Mathlib.Data.List.Perm.Basic
import Parley.Proofs.Topic.Listings

/-!
# Graphs that differ in their numbers

The numbers of topics and triggers tell in which order these were created, and nothing else. If a
part of a graph that no edge leaves is found in another graph under other numbers, a walk through
one is a walk through the other, and the same triggers are visible at the same depths. Their
listings are in the same order as long as no two ranks have to be told apart by numbers.
-/
namespace Parley

/-- Other numbers for topics and triggers. -/
structure Renumbering where
  topic : TopicId → TopicId
  trigger : TriggerId → TriggerId

section Renumber
variable (ρ : Renumbering)

def Entry.renumber (e : Entry) : Entry := { e with trigger := ρ.trigger e.trigger }

def Visit.renumber : Visit → Visit
  | .listed v tag => .listed (ρ.topic v) tag
  | .met issue => .met issue

def Trigger.renumber (t : Trigger) : Trigger := { t with topic := ρ.topic t.topic }

def Rank.renumber (r : Rank) : Rank :=
  { r with owner := ρ.topic r.owner, trigger := ρ.trigger r.trigger }

@[simp] theorem Visit.issue?_renumber (visit : Visit) :
    (visit.renumber ρ).issue? = visit.issue? := by
  cases visit with
  | listed v tag => rfl
  | met issue => rfl

@[simp] theorem Trigger.kind_renumber (t : Trigger) : (t.renumber ρ).kind = t.kind := rfl

end Renumber

namespace Entry

/-- Collapsing does not look at the numbers, as long as they keep triggers apart. -/
theorem distinct_renumber {ρ : Renumbering} {entries entries' : List Entry}
    (hperm : entries'.Perm (entries.map (renumber ρ)))
    (hinj : ∀ a ∈ entries, ∀ b ∈ entries, ρ.trigger a.trigger = ρ.trigger b.trigger →
      a.trigger = b.trigger) :
    (distinct entries').Perm ((distinct entries).map (renumber ρ)) := by
  have hmem (e' : Entry) : e' ∈ entries' ↔ ∃ e ∈ entries, e.renumber ρ = e' := by
    rw [hperm.mem_iff, List.mem_map]
  have hnodup : ((distinct entries).map (renumber ρ)).Nodup := by
    refine List.Nodup.map_on (fun a ha b hb heq => ?_)
      (.of_map _ (nodup_map_trigger_distinct entries))
    obtain ⟨htrigger, hdepth⟩ := Entry.mk.inj heq
    have ha := ((mem_distinct_iff entries a).mp ha).mem
    have hb := ((mem_distinct_iff entries b).mp hb).mem
    exact Entry.ext (hinj a ha b hb htrigger) hdepth
  rw [List.perm_ext_iff_of_nodup (.of_map _ (nodup_map_trigger_distinct entries')) hnodup]
  intro e'
  rw [mem_distinct_iff, List.mem_map]
  constructor
  · intro h
    obtain ⟨e, he, rfl⟩ := (hmem e').mp h.mem
    refine ⟨e, (mem_distinct_iff entries e).mpr ⟨he, fun other hother htrigger => ?_⟩, rfl⟩
    exact h.least (other.renumber ρ) ((hmem _).mpr ⟨other, hother, rfl⟩)
      (congrArg ρ.trigger htrigger)
  · intro h
    obtain ⟨e, he, rfl⟩ := h
    have hshallow := (mem_distinct_iff entries e).mp he
    refine ⟨(hmem _).mpr ⟨e, hshallow.mem, rfl⟩, fun other' hother' htrigger => ?_⟩
    obtain ⟨other, hother, rfl⟩ := (hmem other').mp hother'
    exact hshallow.least other hother (hinj other hother e hshallow.mem htrigger)

end Entry

namespace Rank

/-- No key tells the ranks apart but the numbers. -/
structure Tied (a b : Rank) : Prop where
  depth : a.depth = b.depth
  weight : a.weight = b.weight
  primary : a.primary = b.primary
  secondary : a.secondary = b.secondary

/-- The comparison without the numbers. -/
def compareKeys : Rank → Rank → Ordering :=
  compareLex (compareOn depth) <|
  compareLex (fun a b => compareOn weight b a) <|
  compareLex (compareOn primary) (compareOn secondary)

theorem compare_eq_then (a b : Rank) : a.compare b =
    (a.compareKeys b).then (compareLex (compareOn owner) (compareOn trigger) a b) := by
  simp only [compare, compareKeys, compareLex, Ordering.then_assoc]

theorem compareKeys_eq_iff {a b : Rank} : a.compareKeys b = .eq ↔ a.Tied b := by
  simp only [compareKeys, compareLex_eq_eq, compareOn, Std.LawfulEqOrd.compare_eq_iff_eq]
  constructor
  · intro h
    exact ⟨h.1, h.2.1.symm, h.2.2.1, h.2.2.2⟩
  · intro h
    exact ⟨h.depth, h.weight.symm, h.primary, h.secondary⟩

theorem le_renumber (ρ : Renumbering) {a b : Rank} (h : ¬ a.Tied b) :
    (a.renumber ρ).le (b.renumber ρ) = a.le b := by
  have hkeys : (a.renumber ρ).compareKeys (b.renumber ρ) = a.compareKeys b := rfl
  rw [← compareKeys_eq_iff] at h
  rw [le, le, compare_eq_then, compare_eq_then, hkeys]
  cases hcompare : a.compareKeys b with
  | lt => rfl
  | eq => exact absurd hcompare h
  | gt => rfl

end Rank

namespace Graph

/-- No edge leaves this part of the graph. -/
def Closed (g : Graph) (Part : TopicId → Prop) : Prop :=
  ∀ u, Part u → ∀ v ∈ (g.topic u).includes ++ (g.topic u).inherits, Part v

/-- Routes stay in a part that no edge leaves. -/
theorem Closed.of_route {g : Graph} {Part : TopicId → Prop} {s v : TopicId} (h : g.Closed Part)
    (hs : Part s) {n i : Nat} {b : Bool} (hroute : g.Route s n i b v) : Part v := by
  induction hroute with
  | start => exact hs
  | includes _ hv ih => exact h _ ih _ (List.mem_append_left _ hv)
  | inherits _ hv ih => exact h _ ih _ (List.mem_append_right _ hv)

/-- A topic of this part of the graph owns the trigger. -/
def Owned (g : Graph) (Part : TopicId → Prop) (id : TriggerId) : Prop :=
  ∃ u, Part u ∧ id ∈ (g.topic u).triggers

/-- A part of a graph that no edge leaves is found in another graph under other numbers. -/
structure Renumbers (g g' : Graph) (ρ : Renumbering) (Part : TopicId → Prop) : Prop where
  name : ∀ u, Part u → (g'.topic (ρ.topic u)).name = (g.topic u).name
  includes : ∀ u, Part u → (g'.topic (ρ.topic u)).includes = (g.topic u).includes.map ρ.topic
  inherits : ∀ u, Part u → (g'.topic (ρ.topic u)).inherits = (g.topic u).inherits.map ρ.topic
  closed : ∀ u, Part u → ∀ v ∈ (g.topic u).includes ++ (g.topic u).inherits, Part v
  triggers : ∀ u, Part u →
    ((g'.topic (ρ.topic u)).triggers).Perm ((g.topic u).triggers.map ρ.trigger)
  trigger : ∀ id, g.Owned Part id → g'.trigger (ρ.trigger id) = (g.trigger id).renumber ρ
  owner : ∀ id, g.Owned Part id → Part (g.trigger id).topic
  topic_inj : ∀ u v, Part u → Part v → ρ.topic u = ρ.topic v → u = v
  trigger_inj : ∀ id other, g.Owned Part id → g.Owned Part other →
    ρ.trigger id = ρ.trigger other → id = other

namespace Renumbers
variable {g g' : Graph} {ρ : Renumbering} {Part : TopicId → Prop} {limit : Nat} {kind : Kind}
  {s : TopicId} (h : g.Renumbers g' ρ Part)
include h

theorem contains_map {path : List TopicId} {u : TopicId} (hpath : ∀ v ∈ path, Part v)
    (hu : Part u) : (path.map ρ.topic).contains (ρ.topic u) = path.contains u := by
  rw [Bool.eq_iff_iff, List.contains_iff_mem, List.contains_iff_mem]
  constructor
  · intro hmem
    obtain ⟨v, hv, heq⟩ := List.mem_map.mp hmem
    rw [← h.topic_inj v u (hpath v hv) hu heq]
    exact hv
  · exact List.mem_map_of_mem

theorem tag_renumber {u : TopicId} (hu : Part u) (inheritance : Nat) (inherited : Bool) :
    g'.tag (ρ.topic u) inheritance inherited = g.tag u inheritance inherited := by
  rw [tag, tag, h.inherits u hu, List.isEmpty_map]

theorem walk_renumber {budget : Nat} (path : List TopicId) {inheritance : Nat} {inherited : Bool}
    {u : TopicId} (hpath : ∀ v ∈ path, Part v) (hu : Part u) :
    g'.walk budget (path.map ρ.topic) inheritance inherited (ρ.topic u) =
      (g.walk budget path inheritance inherited u).map (Visit.renumber ρ) := by
  induction budget generalizing path inheritance inherited u with
  | zero =>
    rw [walk, walk, h.name u hu]
    rfl
  | succ budget ih =>
    have hpath' : ∀ v ∈ u :: path, Part v := List.forall_mem_cons.mpr ⟨hu, hpath⟩
    have hnext (inheritance : Nat) (inherited : Bool) (edges : List TopicId)
        (hedges : ∀ v ∈ edges, Part v) :
        (edges.map ρ.topic).flatMap
            (g'.walk budget (ρ.topic u :: path.map ρ.topic) inheritance inherited) =
          (edges.flatMap (g.walk budget (u :: path) inheritance inherited)).map
            (Visit.renumber ρ) := by
      rw [List.flatMap_map, List.map_flatMap]
      exact List.flatMap_congr fun v hv => ih (u :: path) hpath' (hedges v hv)
    have hincludes : ∀ v ∈ (g.topic u).includes, Part v :=
      fun v hv => h.closed u hu v (List.mem_append_left _ hv)
    have hinherits : ∀ v ∈ (g.topic u).inherits, Part v :=
      fun v hv => h.closed u hu v (List.mem_append_right _ hv)
    rw [walk, walk, h.contains_map hpath hu, h.tag_renumber hu, h.name u hu, h.includes u hu,
      h.inherits u hu, hnext _ _ _ hincludes, hnext _ _ _ hinherits]
    split
    · rfl
    · simp only [List.map_append, List.map_singleton]
      rfl

theorem visits_renumber (hs : Part s) :
    g'.visits limit (ρ.topic s) = (g.visits limit s).map (Visit.renumber ρ) :=
  h.walk_renumber [] (List.forall_mem_nil _) hs

theorem part_of_visit (hs : Part s) {v : TopicId} {tag : Nat}
    (hvisit : Visit.listed v tag ∈ g.visits limit s) : Part v := by
  obtain ⟨n, i, b, hroute, _⟩ := tagged_of_listed_mem_visits hvisit
  exact Closed.of_route h.closed hs hroute

theorem entries_renumber {u : TopicId} (hu : Part u) (tag : Nat) :
    (Visit.entries g' kind (.listed (ρ.topic u) tag)).Perm
      ((Visit.entries g kind (.listed u tag)).map (Entry.renumber ρ)) := by
  have hperm := ((h.triggers u hu).filter fun id => (g'.trigger id).kind == kind).map
    fun id => (⟨id, tag⟩ : Entry)
  rw [List.filter_map, List.map_map] at hperm
  rw [Visit.entries, Visit.entries, List.map_map]
  refine hperm.trans (.of_eq ?_)
  have hkind : ∀ id ∈ (g.topic u).triggers,
      ((fun id => (g'.trigger id).kind == kind) ∘ ρ.trigger) id =
        ((g.trigger id).kind == kind) := by
    intro id hid
    rw [Function.comp_apply, h.trigger id ⟨u, hu, hid⟩, Trigger.kind_renumber]
  rw [List.filter_congr hkind]
  rfl

theorem population_renumber (limit : Nat) (kind : Kind) (hs : Part s) :
    ((g'.population limit (ρ.topic s)).entries kind).Perm
      (((g.population limit s).entries kind).map (Entry.renumber ρ)) := by
  rw [population, population, entries_populationOf, entries_populationOf, h.visits_renumber hs,
    List.flatMap_map, List.map_flatMap]
  refine List.Perm.flatMap_left _ fun visit hvisit => ?_
  cases visit with
  | listed v tag => exact h.entries_renumber (h.part_of_visit hs hvisit) tag
  | met issue => exact .refl _

theorem issues_renumber (hs : Part s) :
    (g'.population limit (ρ.topic s)).issues = (g.population limit s).issues := by
  rw [population, population, populationOf, populationOf, h.visits_renumber hs]
  simp [List.filterMap_map]

theorem owned_of_mem_population (hs : Part s) {e : Entry}
    (he : e ∈ (g.population limit s).entries kind) : g.Owned Part e.trigger := by
  obtain ⟨v, htrigger, _, hvisit⟩ := mem_entries_populationOf.mp he
  exact ⟨v, h.part_of_visit hs hvisit, htrigger⟩

theorem visible_renumber (limit : Nat) (kind : Kind) (hs : Part s) :
    (g'.visible limit kind (ρ.topic s)).Perm
      ((g.visible limit kind s).map (Entry.renumber ρ)) := by
  refine Entry.distinct_renumber (h.population_renumber limit kind hs) fun a ha b hb => ?_
  exact h.trigger_inj _ _ (h.owned_of_mem_population hs ha) (h.owned_of_mem_population hs hb)

theorem owned_of_mem_visible (hs : Part s) {e : Entry} (he : e ∈ g.visible limit kind s) :
    g.Owned Part e.trigger :=
  h.owned_of_mem_population hs ((Entry.mem_distinct_iff _ _).mp he).mem

theorem rank_renumber {e : Entry} (he : g.Owned Part e.trigger) :
    g'.rank kind (e.renumber ρ) = (g.rank kind e).renumber ρ := by
  have htrigger : g'.trigger (e.renumber ρ).trigger = (g.trigger e.trigger).renumber ρ :=
    h.trigger e.trigger he
  simp only [rank, Trigger.rank, htrigger, Trigger.renumber]
  cases kind with
  | plain => rfl
  | previous =>
    cases (g.trigger e.trigger).previous with
    | none => rfl
    | some condition => rfl

/-- Listings agree where other numbers leave ranks in their order. -/
theorem sortEntries_renumber (hs : Part s)
    (hle : ∀ a ∈ g.visible limit kind s, ∀ b ∈ g.visible limit kind s,
      ((g.rank kind a).renumber ρ).le ((g.rank kind b).renumber ρ) =
        (g.rank kind a).le (g.rank kind b)) :
    g'.sortEntries kind (g'.visible limit kind (ρ.topic s)) =
      (g.sortEntries kind (g.visible limit kind s)).map (Entry.renumber ρ) := by
  rw [sortEntries_congr (h.visible_renumber limit kind hs), sortEntries_eq_mergeSort,
    sortEntries_eq_mergeSort]
  refine (List.map_mergeSort fun a ha b hb => ?_).symm
  rw [h.rank_renumber (h.owned_of_mem_visible hs ha),
    h.rank_renumber (h.owned_of_mem_visible hs hb), hle a ha b hb]

/-- The report on a topic has no numbers in it. -/
theorem report_renumber (hs : Part s) : (g'.list limit (ρ.topic s)).2 = (g.list limit s).2 := by
  have hkept (kind : Kind) : (g'.sortEntries kind (g'.visible limit kind (ρ.topic s))).length =
      (g.sortEntries kind (g.visible limit kind s)).length := by
    rw [(sortEntries_perm ..).length_eq, (sortEntries_perm ..).length_eq,
      (h.visible_renumber limit kind hs).length_eq, List.length_map]
  have hdropped (kind : Kind) :
      (Entry.collapse ((g'.population limit (ρ.topic s)).entries kind)).dropped =
        (Entry.collapse ((g.population limit s).entries kind)).dropped := by
    have hseen := (h.population_renumber limit kind hs).length_eq
    have hvisible := (h.visible_renumber limit kind hs).length_eq
    rw [List.length_map] at hseen hvisible
    exact congrArg₂ (· - ·) hseen hvisible
  simp only [list, TopicReport.mk.injEq]
  exact ⟨h.name s hs, hkept .plain, hkept .previous,
    congrArg₂ (· + ·) (hdropped .plain) (hdropped .previous), h.issues_renumber hs⟩

end Renumbers
end Graph
end Parley
