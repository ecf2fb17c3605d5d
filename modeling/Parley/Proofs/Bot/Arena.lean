import Mathlib.Data.List.Nodup
import Parley.Proofs.Bot.Replacement
import Parley.Proofs.Text.Keys

/-!
# The arena of topics and triggers

Topics and triggers refer to each other by number. In every graph that a bot reaches the numbers fit
together: a name stands for one topic only, edges lead to topics that exist and are not repeated,
each trigger is filed once and under the topic that it names, and listings hold triggers that exist.
Each of these is kept by the single changes of a graph, most of which touch only one of them.
-/
namespace Parley.Graph

/-- Names are keys, and a name stands for one topic only. -/
structure Named (g : Graph) : Prop where
  keyed : ∀ id < g.topics.size, Text.key (g.topic id).name = (g.topic id).name
  unique : ∀ id < g.topics.size, ∀ other < g.topics.size,
    (g.topic id).name = (g.topic other).name → id = other

/-- Edges lead to topics that exist, and no edge is repeated. -/
structure Linked (g : Graph) : Prop where
  edges_lt : ∀ relation id, ∀ other ∈ (g.topic id).edges relation, other < g.topics.size
  nodup_edges : ∀ relation id, ((g.topic id).edges relation).Nodup

/-- A topic owns the triggers that name it, in the order of their numbers, and no two of them have
one identity. -/
structure Filed (g : Graph) : Prop where
  topic_lt : ∀ id < g.triggers.size, (g.trigger id).topic < g.topics.size
  owned : ∀ topic, (g.topic topic).triggers =
    (List.range g.triggers.size).filter fun id => (g.trigger id).topic = topic
  sole : ∀ id < g.triggers.size, ∀ other < g.triggers.size,
    (g.trigger id).topic = (g.trigger other).topic →
      (g.trigger id).identity = (g.trigger other).identity → id = other

/-- Topics own triggers that exist, and listings hold triggers that exist. -/
structure Backed (g : Graph) : Prop where
  stored : g.Stored
  listed : ∀ id listing, (g.topic id).sorted = some listing →
    ∀ kind, ∀ entry ∈ listing.entries kind, entry.trigger < g.triggers.size

/-- The edges of two graphs are the same. -/
def SameEdges (g g' : Graph) : Prop :=
  ∀ relation id, (g'.topic id).edges relation = (g.topic id).edges relation

theorem SameEdges.trans {g g' g'' : Graph} (h : g.SameEdges g') (h' : g'.SameEdges g'') :
    g.SameEdges g'' := fun relation id => (h' relation id).trans (h relation id)

theorem sameEdges_of_unsort_eq {g g' : Graph} (h : g'.unsort = g.unsort) : g.SameEdges g' := by
  intro relation id
  rw [← edges_unsort g', h, edges_unsort]

theorem within_of_unsort_eq {g g' : Graph} (h : g'.unsort = g.unsort) : g.Within g' where
  size := by
    have hsize := congrArg (fun g : Graph => g.topics.size) h
    simp only [size_topics_unsort] at hsize
    exact Nat.le_of_eq hsize.symm
  name id _ := by
    have hname := congrArg (fun g : Graph => (g.topic id).name) h
    simpa only [topic_unsort] using hname
  edges relation id := by
    rw [sameEdges_of_unsort_eq h relation id]
    exact List.Subset.refl _

theorem within_sort (g : Graph) (limit : Nat) : g.Within (g.sort limit).1 :=
  within_of_unsort_eq (g.unsort_sort limit)

theorem sameEdges_ensure (g : Graph) (name : String) : g.SameEdges (g.ensure name) := by
  intro relation id
  cases h : g.find? name with
  | some _ => rw [ensure_of_find? h]
  | none => rw [ensure_of_find?_eq_none h, edges_unsort, edges_push]

theorem sameEdges_addTrigger (g : Graph) (t : Trigger) : g.SameEdges (g.addTrigger t).1 := by
  intro relation id
  cases hfound : g.findTrigger? t.topic t.identity with
  | some found => rw [addTrigger_of_some hfound, replace, edges_unsort]; rfl
  | none =>
    rw [addTrigger_of_none hfound, append, edges_unsort, topic_modifyTopic]
    split
    · cases relation <;> rfl
    · rfl

theorem size_topics_addTrigger (g : Graph) (t : Trigger) :
    (g.addTrigger t).1.topics.size = g.topics.size := by
  unfold addTrigger
  split <;> simp

theorem Named.congr {g g' : Graph} (h : g.Named) (hwithin : g.Within g')
    (hsize : g'.topics.size = g.topics.size) : g'.Named := by
  have hname (id : TopicId) (hid : id < g'.topics.size) :
      (g'.topic id).name = (g.topic id).name := hwithin.name id (hsize ▸ hid)
  constructor
  · intro id hid
    rw [hname id hid]
    exact h.keyed id (hsize ▸ hid)
  · intro id hid other hother heq
    rw [hname id hid, hname other hother] at heq
    exact h.unique id (hsize ▸ hid) other (hsize ▸ hother) heq

/-- A topic is created under a key that no other topic has. -/
theorem Named.push {g : Graph} (h : g.Named) {name : String} (hnew : g.find? name = none) :
    (g.push name hnew).Named := by
  have hfresh (id : TopicId) (hid : id < g.topics.size) : (g.topic id).name ≠ Text.key name := by
    intro heq
    obtain ⟨first, hfirst⟩ := exists_find?_of_name hid heq
    rw [hnew] at hfirst
    cases hfirst
  have hname (id : TopicId) : ((g.push name hnew).topic id).name =
      if id = g.topics.size then Text.key name else (g.topic id).name := by
    rw [topic_push]
    split
    · rw [Topic.new]
    · rfl
  have hlt (id : TopicId) (hid : id < g.topics.size + 1) (hlast : id ≠ g.topics.size) :
      id < g.topics.size := Nat.lt_of_le_of_ne (Nat.le_of_lt_succ hid) hlast
  constructor
  · intro id hid
    rw [size_topics_push] at hid
    rw [hname]
    split
    · exact Text.key_key name
    · rename_i hlast
      exact h.keyed id (hlt id hid hlast)
  · intro id hid other hother heq
    rw [size_topics_push] at hid hother
    rw [hname, hname] at heq
    by_cases hlast : id = g.topics.size
    · by_cases hlast' : other = g.topics.size
      · rw [hlast, hlast']
      · rw [if_pos hlast, if_neg hlast'] at heq
        exact absurd heq.symm (hfresh other (hlt other hother hlast'))
    · by_cases hlast' : other = g.topics.size
      · rw [if_neg hlast, if_pos hlast'] at heq
        exact absurd heq (hfresh id (hlt id hid hlast))
      · rw [if_neg hlast, if_neg hlast'] at heq
        exact h.unique id (hlt id hid hlast) other (hlt other hother hlast') heq

theorem Named.ensure {g : Graph} (h : g.Named) (name : String) : (g.ensure name).Named := by
  cases hfind : g.find? name with
  | some id => rwa [ensure_of_find? hfind]
  | none =>
    rw [ensure_of_find?_eq_none hfind]
    exact (h.push hfind).congr (within_unsort (.refl _)) (size_topics_unsort _)

theorem kept_named : Kept Named where
  ensure _ name h := h.ensure name
  addTrigger g t _ _ h := h.congr (g.evolves_addTrigger t).within (g.size_topics_addTrigger t)
  addEdge g relation topic other _ _ h :=
    h.congr (g.within_addEdge relation topic other) (g.size_topics_addEdge relation topic other)
  sort g limit h := h.congr (g.within_sort limit) (g.size_topics_sort limit)

theorem named_empty : Graph.empty.Named :=
  ⟨fun _ hid => absurd hid (Nat.not_lt_zero _), fun _ hid => absurd hid (Nat.not_lt_zero _)⟩

theorem Linked.congr {g g' : Graph} (h : g.Linked) (hedges : g.SameEdges g')
    (hsize : g.topics.size ≤ g'.topics.size) : g'.Linked where
  edges_lt relation id other hother := by
    rw [hedges] at hother
    exact Nat.lt_of_lt_of_le (h.edges_lt relation id other hother) hsize
  nodup_edges relation id := by
    rw [hedges]
    exact h.nodup_edges relation id

/-- An edge is added between topics that exist, and only if it is not there. -/
theorem Linked.addEdge {g : Graph} (h : g.Linked) (relation : Relation) {topic other : TopicId}
    (htopic : topic < g.topics.size) (hother : other < g.topics.size) :
    (g.addEdge relation topic other).Linked where
  edges_lt relation' id next hnext := by
    rw [size_topics_addEdge]
    rw [edges_addEdge htopic] at hnext
    split at hnext
    · obtain hold | hnew := List.mem_append.mp hnext
      · exact h.edges_lt relation' id next hold
      · rwa [List.mem_singleton.mp hnew]
    · exact h.edges_lt relation' id next hnext
  nodup_edges relation' id := by
    rw [edges_addEdge htopic]
    split
    · rename_i hadded
      obtain ⟨rfl, rfl, hnot⟩ := hadded
      rw [← List.concat_eq_append]
      exact (h.nodup_edges _ _).concat hnot
    · exact h.nodup_edges relation' id

theorem kept_linked : Kept Linked where
  ensure g name h := h.congr (g.sameEdges_ensure name) (g.evolves_ensure name).within.size
  addTrigger g t _ _ h := h.congr (g.sameEdges_addTrigger t) (g.evolves_addTrigger t).within.size
  addEdge _ relation _ _ htopic hother h := h.addEdge relation htopic hother
  sort g limit h :=
    h.congr (sameEdges_of_unsort_eq (g.unsort_sort limit)) (g.within_sort limit).size

theorem linked_empty : Graph.empty.Linked where
  edges_lt relation _ _ h := by cases relation <;> cases h
  nodup_edges relation _ := by cases relation <;> exact List.nodup_nil

theorem SameTriggers.trigger_eq {g g' : Graph} (h : g.SameTriggers g') (id : TriggerId) :
    g'.trigger id = g.trigger id := by
  rw [trigger, h.triggers]
  rfl

theorem Filed.mem_iff {g : Graph} (h : g.Filed) {topic : TopicId} {id : TriggerId} :
    id ∈ (g.topic topic).triggers ↔ id < g.triggers.size ∧ (g.trigger id).topic = topic := by
  rw [h.owned]
  simp

theorem Filed.nodup {g : Graph} (h : g.Filed) (topic : TopicId) :
    (g.topic topic).triggers.Nodup := by
  rw [h.owned]
  exact List.nodup_range.filter _

theorem Filed.congr {g g' : Graph} (h : g.Filed) (hsame : g.SameTriggers g')
    (hsize : g.topics.size ≤ g'.topics.size) : g'.Filed where
  topic_lt id hid := by
    rw [hsame.triggers] at hid
    rw [hsame.trigger_eq]
    exact Nat.lt_of_lt_of_le (h.topic_lt id hid) hsize
  owned topic := by
    simp only [hsame.owned, hsame.triggers, hsame.trigger_eq]
    exact h.owned topic
  sole id hid other hother htopic hidentity := by
    rw [hsame.triggers] at hid hother
    rw [hsame.trigger_eq, hsame.trigger_eq] at htopic hidentity
    exact h.sole id hid other hother htopic hidentity

theorem topic_trigger_replace (g : Graph) {id : TriggerId} (hid : id < g.triggers.size)
    (t : Trigger) (other : TriggerId) :
    ((g.replace id t).trigger other).topic = (g.trigger other).topic := by
  by_cases hother : other = id
  · subst hother
    rw [trigger_replace_self g other t hid]
    rfl
  · rw [trigger_replace_of_ne g id t hother]

theorem size_topics_replace (g : Graph) (id : TriggerId) (t : Trigger) :
    (g.replace id t).topics.size = g.topics.size := by
  simp [replace]

/-- A trigger that is registered again stays where it is. -/
theorem Filed.replace {g : Graph} (h : g.Filed) {id : TriggerId} {t : Trigger}
    (hid : id < g.triggers.size) (hidentity : (g.trigger id).identity = t.identity) :
    (g.replace id t).Filed where
  topic_lt other hother := by
    rw [size_triggers_replace] at hother
    rw [topic_trigger_replace g hid, size_topics_replace]
    exact h.topic_lt other hother
  owned topic := by
    simp only [topic_replace, size_triggers_replace, topic_trigger_replace g hid]
    exact h.owned topic
  sole first hfirst second hsecond htopic hsame := by
    rw [size_triggers_replace] at hfirst hsecond
    rw [topic_trigger_replace g hid, topic_trigger_replace g hid] at htopic
    rw [identity_replace hid hidentity, identity_replace hid hidentity] at hsame
    exact h.sole first hfirst second hsecond htopic hsame

/-- A new trigger gets the next number, and its topic has no other one of its identity. -/
theorem Filed.push {g : Graph} (h : g.Filed) {t : Trigger} (htopic : t.topic < g.topics.size)
    (hnew : g.findTrigger? t.topic t.identity = none) : (g.addTrigger t).1.Filed := by
  have htrigger (id : TriggerId) := trigger_addTrigger_of_none hnew id
  have hold (id : TriggerId) (hid : id < g.triggers.size) :
      (g.addTrigger t).1.trigger id = g.trigger id := by
    rw [htrigger, if_neg (Nat.ne_of_lt hid)]
  have hlast : (g.addTrigger t).1.trigger g.triggers.size = t := by rw [htrigger, if_pos rfl]
  have hsize : (g.addTrigger t).1.triggers.size = g.triggers.size + 1 := by
    rw [triggers_addTrigger_of_none hnew, Array.size_push]
  have hfresh (id : TriggerId) (hid : id < g.triggers.size)
      (hsame : (g.trigger id).topic = t.topic) : (g.trigger id).identity ≠ t.identity := by
    have hnone := List.find?_eq_none.mp hnew id (h.mem_iff.mpr ⟨hid, hsame⟩)
    simpa using hnone
  constructor
  · intro id hid
    rw [hsize] at hid
    rw [size_topics_addTrigger]
    obtain hlt | heq := Nat.lt_succ_iff_lt_or_eq.mp hid
    · rw [hold id hlt]
      exact h.topic_lt id hlt
    · rw [heq, hlast]
      exact htopic
  · intro topic
    have hfilter : ((List.range g.triggers.size).filter
        fun id => ((g.addTrigger t).1.trigger id).topic = topic) = (g.topic topic).triggers := by
      rw [h.owned]
      refine List.filter_congr fun id hid => ?_
      rw [hold id (List.mem_range.mp hid)]
    rw [owned_addTrigger_of_none hnew htopic, hsize, List.range_succ, List.filter_append, hfilter,
      List.filter_singleton, hlast]
    by_cases hsame : topic = t.topic
    · simp [hsame]
    · simp [hsame, Ne.symm hsame]
  · intro id hid other hother hsame hidentity
    rw [hsize] at hid hother
    obtain hlt | heq := Nat.lt_succ_iff_lt_or_eq.mp hid
    · obtain hlt' | heq' := Nat.lt_succ_iff_lt_or_eq.mp hother
      · rw [hold id hlt, hold other hlt'] at hsame hidentity
        exact h.sole id hlt other hlt' hsame hidentity
      · rw [hold id hlt, heq', hlast] at hsame hidentity
        exact absurd hidentity (hfresh id hlt hsame)
    · obtain hlt' | heq' := Nat.lt_succ_iff_lt_or_eq.mp hother
      · rw [hold other hlt', heq, hlast] at hsame hidentity
        exact absurd hidentity.symm (hfresh other hlt' hsame.symm)
      · rw [heq, heq']

theorem Filed.stored {g : Graph} (h : g.Filed) : g.Stored :=
  fun _ _ hid => (h.mem_iff.mp hid).1

theorem Filed.addTrigger {g : Graph} (h : g.Filed) {t : Trigger}
    (htopic : t.topic < g.topics.size) : (g.addTrigger t).1.Filed := by
  cases hfound : g.findTrigger? t.topic t.identity with
  | some found =>
    rw [addTrigger_of_some hfound]
    exact h.replace (h.stored.lt_of_findTrigger? hfound) (identity_of_findTrigger? hfound)
  | none => exact h.push htopic hfound

theorem kept_filed : Kept Filed where
  ensure g name h := h.congr (g.sameTriggers_ensure name) (g.evolves_ensure name).within.size
  addTrigger _ _ _ htopic h := h.addTrigger htopic
  addEdge g relation topic other _ _ h := h.congr (g.sameTriggers_addEdge relation topic other)
    (g.within_addEdge relation topic other).size
  sort g limit h := h.congr (g.sameTriggers_sort limit) (g.within_sort limit).size

theorem filed_empty : Graph.empty.Filed where
  topic_lt _ hid := absurd hid (Nat.not_lt_zero _)
  owned _ := rfl
  sole _ hid := absurd hid (Nat.not_lt_zero _)

theorem Stored.lt_of_mem_population {g : Graph} (h : g.Stored) {limit : Nat} {s : TopicId}
    {kind : Kind} {entry : Entry} (hentry : entry ∈ (g.population limit s).entries kind) :
    entry.trigger < g.triggers.size := by
  obtain ⟨v, htrigger, _⟩ := mem_entries_populationOf.mp hentry
  exact h v entry.trigger htrigger

/-- What changes a graph drops its listings. -/
theorem Backed.evolve {g g' : Graph} {registered : Prop} (h : g.Backed)
    (hevolves : g.Evolves g' registered) (hstored : g'.Stored) : g'.Backed := by
  refine ⟨hstored, fun id listing hlisting => ?_⟩
  obtain ⟨rfl, _⟩ | ⟨hunsorted, _⟩ := hevolves.outcome
  · exact h.listed id listing hlisting
  · rw [hunsorted id] at hlisting
    cases hlisting

theorem Backed.sort {g : Graph} (h : g.Backed) (limit : Nat) : (g.sort limit).1.Backed := by
  have hsame := g.sameTriggers_sort limit
  refine ⟨h.stored.congr hsame, fun id listing hlisting kind entry hentry => ?_⟩
  by_cases hid : id < (g.sort limit).1.topics.size
  · rw [g.listed_sort limit id hid, list_congr (g.unsort_sort limit)] at hlisting
    rw [← Option.some.inj hlisting, entries_list, mem_sortEntries] at hentry
    have hshallow := (Entry.mem_distinct_iff _ _).mp hentry
    rw [hsame.triggers]
    exact h.stored.lt_of_mem_population hshallow.mem
  · rw [topic_of_size_le (Nat.le_of_not_lt hid)] at hlisting
    cases hlisting

theorem kept_backed : Kept Backed where
  ensure g name h := h.evolve (g.evolves_ensure name) (h.stored.congr (g.sameTriggers_ensure name))
  addTrigger g t _ htopic h := h.evolve (g.evolves_addTrigger t) (h.stored.addTrigger htopic)
  addEdge g relation topic other htopic _ h := h.evolve (g.evolves_addEdge relation other htopic)
    (h.stored.congr (g.sameTriggers_addEdge relation topic other))
  sort _ limit h := h.sort limit

theorem backed_empty : Graph.empty.Backed := ⟨stored_empty, fun _ _ h => nomatch h⟩

end Parley.Graph
