import Mathlib.Logic.Basic
import Parley.Topic.Graph

/-!
# How a graph grows

Operations other than sorting add to a graph and take nothing away. Each of them either leaves the
graph as it is, or it adds something and then drops the listings of all topics. This holds of any
sequence of such operations, so a listing that is still there was not overtaken by a change.
-/
namespace Parley.Graph

/-- No topic holds a listing. -/
def Unsorted (g : Graph) : Prop := ∀ id, (g.topic id).sorted = none

/-- The topics and edges of a graph are in another one too. -/
structure Within (g g' : Graph) : Prop where
  size : g.topics.size ≤ g'.topics.size
  name : ∀ id < g.topics.size, (g'.topic id).name = (g.topic id).name
  edges : ∀ relation id, (g.topic id).edges relation ⊆ (g'.topic id).edges relation

/-- A topic or an edge of `g'` is not in `g`. -/
def Gains (g g' : Graph) : Prop :=
  g.topics.size < g'.topics.size ∨
    ∃ relation id, ∃ other ∈ (g'.topic id).edges relation, other ∉ (g.topic id).edges relation

/-- What operations other than sorting make of a graph, where `registered` tells whether a trigger
was registered among them. -/
structure Evolves (g g' : Graph) (registered : Prop) : Prop where
  within : g.Within g'
  outcome : (g' = g ∧ ¬ registered) ∨ (g'.Unsorted ∧ (g.Gains g' ∨ registered))

theorem Within.refl (g : Graph) : g.Within g :=
  ⟨Nat.le_refl _, fun _ _ => rfl, fun _ _ => List.Subset.refl _⟩

theorem Within.trans {g g' g'' : Graph} (h : g.Within g') (h' : g'.Within g'') :
    g.Within g'' where
  size := Nat.le_trans h.size h'.size
  name id hid := (h'.name id (Nat.lt_of_lt_of_le hid h.size)).trans (h.name id hid)
  edges relation id := List.Subset.trans (h.edges relation id) (h'.edges relation id)

theorem not_gains_self (g : Graph) : ¬ g.Gains g := by
  rintro (h | ⟨relation, id, other, h, hnot⟩)
  · exact Nat.lt_irrefl _ h
  · exact hnot h

theorem Gains.mono_left {g g' g'' : Graph} (h : g.Within g') (h' : g'.Gains g'') :
    g.Gains g'' := by
  obtain h' | ⟨relation, id, other, h', hnot⟩ := h'
  · exact .inl (Nat.lt_of_le_of_lt h.size h')
  · exact .inr ⟨relation, id, other, h', fun hin => hnot (h.edges relation id hin)⟩

theorem Evolves.refl (g : Graph) : g.Evolves g False := ⟨.refl g, .inl ⟨rfl, not_false⟩⟩

theorem Evolves.trans {g g' g'' : Graph} {p q : Prop} (h : g.Evolves g' p)
    (h' : g'.Evolves g'' q) : g.Evolves g'' (p ∨ q) := by
  refine ⟨h.within.trans h'.within, ?_⟩
  obtain ⟨heq, hq⟩ | ⟨hunsorted, hq⟩ := h'.outcome
  · subst heq
    obtain ⟨heq, hp⟩ | ⟨hunsorted, hp⟩ := h.outcome
    · exact .inl ⟨heq, not_or.mpr ⟨hp, hq⟩⟩
    · exact .inr ⟨hunsorted, hp.imp_right .inl⟩
  · refine .inr ⟨hunsorted, ?_⟩
    obtain hgains | hq := hq
    · exact .inl (hgains.mono_left h.within)
    · exact .inr (.inr hq)

theorem Evolves.congr {g g' : Graph} {p q : Prop} (h : g.Evolves g' p) (hpq : p ↔ q) :
    g.Evolves g' q := by rwa [← hpq]

/-- Nothing gained and nothing registered means that nothing changed. -/
theorem Evolves.eq_of_not {g g' : Graph} {registered : Prop} (h : g.Evolves g' registered)
    (hgains : ¬ g.Gains g') (hregistered : ¬ registered) : g' = g := by
  obtain ⟨heq, _⟩ | ⟨_, hsome⟩ := h.outcome
  · exact heq
  · exact absurd hsome (not_or.mpr ⟨hgains, hregistered⟩)

/-- What was gained or registered has dropped all listings. -/
theorem Evolves.unsorted_of {g g' : Graph} {registered : Prop} (h : g.Evolves g' registered)
    (hsome : g.Gains g' ∨ registered) : g'.Unsorted := by
  obtain ⟨rfl, hnot⟩ | ⟨hunsorted, _⟩ := h.outcome
  · exact absurd hsome (not_or.mpr ⟨not_gains_self _, hnot⟩)
  · exact hunsorted

theorem topic_of_lt {g : Graph} {id : TopicId} (h : id < g.topics.size) :
    g.topic id = g.topics[id] := by
  simp [topic, h]

theorem topic_of_size_le {g : Graph} {id : TopicId} (h : g.topics.size ≤ id) :
    g.topic id = .new "" := by
  simp [topic, h]

theorem find?_eq_some_iff {g : Graph} {name : String} {id : TopicId} :
    g.find? name = some id ↔ id < g.topics.size ∧ (g.topic id).name = Text.key name ∧
      ∀ j < id, (g.topic j).name ≠ Text.key name := by
  rw [find?, g.byName_eq, Array.findIdx?_eq_some_iff_getElem]
  constructor
  · intro h
    obtain ⟨hid, hname, hbefore⟩ := h
    refine ⟨hid, by simpa [topic_of_lt hid] using hname, fun j hj => ?_⟩
    simpa [topic_of_lt (Nat.lt_trans hj hid)] using hbefore j hj
  · intro h
    obtain ⟨hid, hname, hbefore⟩ := h
    refine ⟨hid, by simpa [topic_of_lt hid] using hname, fun j hj => ?_⟩
    simpa [topic_of_lt (Nat.lt_trans hj hid)] using hbefore j hj

theorem exists_find?_of_name {g : Graph} {name : String} {id : TopicId}
    (hid : id < g.topics.size) (hname : (g.topic id).name = Text.key name) :
    ∃ first, g.find? name = some first := by
  cases h : g.find? name with
  | some first => exact ⟨first, rfl⟩
  | none =>
    rw [find?, g.byName_eq, Array.findIdx?_eq_none_iff] at h
    have hnot := h g.topics[id] (Array.getElem_mem hid)
    rw [topic_of_lt hid] at hname
    simp [hname] at hnot

theorem lt_size_of_find? {g : Graph} {name : String} {id : TopicId}
    (h : g.find? name = some id) : id < g.topics.size := (find?_eq_some_iff.mp h).1

/-- A name that is known stays the name of the same topic. -/
theorem Within.find? {g g' : Graph} (h : g.Within g') {name : String} {id : TopicId}
    (hfind : g.find? name = some id) : g'.find? name = some id := by
  obtain ⟨hid, hname, hbefore⟩ := find?_eq_some_iff.mp hfind
  refine find?_eq_some_iff.mpr ⟨Nat.lt_of_lt_of_le hid h.size, ?_, fun j hj => ?_⟩
  · rw [h.name id hid, hname]
  · rw [h.name j (Nat.lt_trans hj hid)]
    exact hbefore j hj

theorem idOf_eq {g : Graph} {name : String} {id : TopicId} (h : g.find? name = some id) :
    g.idOf name = id := by
  rw [idOf, h, Option.getD_some]

theorem unsorted_unsort (g : Graph) : g.unsort.Unsorted := by
  intro id
  rw [topic_unsort]

theorem edges_unsort (g : Graph) (id : TopicId) (relation : Relation) :
    (g.unsort.topic id).edges relation = (g.topic id).edges relation := by
  rw [topic_unsort]
  cases relation <;> rfl

theorem within_unsort {g g' : Graph} (h : g.Within g') : g.Within g'.unsort where
  size := by simpa using h.size
  name id hid := by rw [topic_unsort]; exact h.name id hid
  edges relation id := by rw [edges_unsort]; exact h.edges relation id

/-- Listings are neither topics nor edges. -/
theorem gains_unsort {g g' : Graph} : g.unsort.Gains g'.unsort ↔ g.Gains g' := by
  simp [Gains, edges_unsort]

section Push
variable (g : Graph) {name : String} (hnew : g.find? name = none)

@[simp] theorem size_topics_push : (g.push name hnew).topics.size = g.topics.size + 1 :=
  Array.size_push _

/-- The graph has one more topic, which has no triggers and no edges. -/
theorem topic_push (id : TopicId) :
    (g.push name hnew).topic id =
      if id = g.topics.size then .new (Text.key name) else g.topic id := by
  by_cases hid : id = g.topics.size <;> simp [topic, push, Array.getElem?_push, hid]

/-- A new topic has no edges, and neither had its number before. -/
theorem edges_push (id : TopicId) (relation : Relation) :
    ((g.push name hnew).topic id).edges relation = (g.topic id).edges relation := by
  rw [topic_push]
  split
  · rename_i hid
    rw [topic_of_size_le (Nat.le_of_eq hid.symm), Topic.edges_new, Topic.edges_new]
  · rfl

theorem within_push : g.Within (g.push name hnew) where
  size := by simp
  name id hid := by rw [topic_push, if_neg (Nat.ne_of_lt hid)]
  edges relation id := by
    rw [edges_push]
    exact List.Subset.refl _

end Push

theorem ensure_of_find? {g : Graph} {name : String} {id : TopicId}
    (h : g.find? name = some id) : g.ensure name = g := by
  unfold ensure
  split
  · rfl
  · rename_i hnone
    rw [h] at hnone
    cases hnone

theorem ensure_of_find?_eq_none {g : Graph} {name : String} (h : g.find? name = none) :
    g.ensure name = (g.push name h).unsort := by
  unfold ensure
  split
  · rename_i hsome
    rw [h] at hsome
    cases hsome
  · rfl

theorem evolves_ensure (g : Graph) (name : String) : g.Evolves (g.ensure name) False := by
  cases h : g.find? name with
  | some id =>
    rw [ensure_of_find? h]
    exact .refl g
  | none =>
    rw [ensure_of_find?_eq_none h]
    exact ⟨within_unsort (g.within_push h), .inr ⟨unsorted_unsort _, .inl (.inl (by simp))⟩⟩

theorem exists_find?_ensure (g : Graph) (name : String) :
    ∃ id, (g.ensure name).find? name = some id := by
  cases h : g.find? name with
  | some id => exact ⟨id, by rw [ensure_of_find? h, h]⟩
  | none =>
    rw [ensure_of_find?_eq_none h, find?_unsort]
    exact ⟨g.topics.size, Std.ExtTreeMap.getElem?_insert_self⟩

/-- After a name was ensured, it stands for a topic. -/
theorem idOf_lt_size_ensure (g : Graph) (name : String) :
    (g.ensure name).idOf name < (g.ensure name).topics.size := by
  obtain ⟨id, hfind⟩ := exists_find?_ensure g name
  rw [idOf_eq hfind]
  exact lt_size_of_find? hfind

/-- After two names were ensured, the first one stands for a topic. -/
theorem idOf_lt_size_ensure_ensure (g : Graph) (name other : String) :
    ((g.ensure name).ensure other).idOf name < ((g.ensure name).ensure other).topics.size := by
  obtain ⟨id, hfind⟩ := exists_find?_ensure g name
  have hfind' := ((g.ensure name).evolves_ensure other).within.find? hfind
  rw [idOf_eq hfind']
  exact lt_size_of_find? hfind'

section ModifyTopic
variable (g : Graph) (id : TopicId) {change : Topic → Topic}
  (hname : ∀ t, (change t).name = t.name)

theorem topic_modifyTopic (other : TopicId) :
    (g.modifyTopic id change hname).topic other =
      if other = id ∧ other < g.topics.size then change (g.topic other) else g.topic other := by
  by_cases hother : other = id
  · subst hother
    by_cases hlt : other < g.topics.size
    · rw [topic_modifyTopic_self g hname hlt, if_pos ⟨rfl, hlt⟩]
    · rw [topic_of_size_le (Nat.le_of_not_lt hlt), topic_of_size_le (by simpa using hlt),
        if_neg fun h => hlt h.2]
  · rw [topic_modifyTopic_of_ne g hname hother, if_neg fun h => hother h.1]

/-- A topic keeps its name, and here it keeps its edges too. -/
theorem within_modifyTopic (hedges : ∀ relation t, t.edges relation ⊆ (change t).edges relation) :
    g.Within (g.modifyTopic id change hname) where
  size := by simp
  name other _ := by
    rw [topic_modifyTopic]
    split
    · exact hname _
    · rfl
  edges relation other := by
    rw [topic_modifyTopic]
    split
    · exact hedges relation _
    · exact List.Subset.refl _

end ModifyTopic

theorem evolves_addTrigger (g : Graph) (t : Trigger) : g.Evolves (g.addTrigger t).1 True := by
  refine ⟨?_, .inr ⟨?_, .inr trivial⟩⟩
  · unfold addTrigger
    split
    · exact within_unsort ⟨Nat.le_refl _, fun _ _ => rfl, fun _ _ => List.Subset.refl _⟩
    · have hpush : g.Within ({ g with triggers := g.triggers.push t } : Graph) :=
        ⟨Nat.le_refl _, fun _ _ => rfl, fun _ _ => List.Subset.refl _⟩
      refine within_unsort (hpush.trans (within_modifyTopic _ _ _ fun relation _ => ?_))
      cases relation <;> exact List.Subset.refl _
  · unfold addTrigger
    split
    · exact unsorted_unsort _
    · exact unsorted_unsort _

section AddEdge
variable {g : Graph} {relation : Relation} {topic other : TopicId}

theorem addEdge_of_mem (h : other ∈ (g.topic topic).edges relation) :
    g.addEdge relation topic other = g := by
  simp [addEdge, h]

theorem addEdge_of_not_mem (h : other ∉ (g.topic topic).edges relation) :
    g.addEdge relation topic other =
      (g.modifyTopic topic (·.addEdge relation other)
        fun t => t.name_addEdge relation other).unsort := by
  simp [addEdge, h]

theorem size_topics_addEdge (g : Graph) (relation : Relation) (topic other : TopicId) :
    (g.addEdge relation topic other).topics.size = g.topics.size := by
  unfold addEdge
  split <;> simp

/-- The edges of a topic that exists, after one was added. -/
theorem edges_addEdge (htopic : topic < g.topics.size) (added : Relation) (id : TopicId) :
    ((g.addEdge added topic other).topic id).edges relation =
      if relation = added ∧ id = topic ∧ other ∉ (g.topic topic).edges added then
        (g.topic id).edges relation ++ [other]
      else (g.topic id).edges relation := by
  by_cases hmem : other ∈ (g.topic topic).edges added
  · rw [addEdge_of_mem hmem, if_neg fun h => h.2.2 hmem]
  · rw [addEdge_of_not_mem hmem, edges_unsort, topic_modifyTopic]
    by_cases hid : id = topic
    · subst hid
      simp [htopic, hmem, Topic.edges_addEdge]
    · simp [hid]

theorem mem_edges_addEdge (other : TopicId) (htopic : topic < g.topics.size) :
    other ∈ ((g.addEdge relation topic other).topic topic).edges relation := by
  by_cases h : other ∈ (g.topic topic).edges relation
  · rwa [addEdge_of_mem h]
  · rw [edges_addEdge htopic, if_pos ⟨rfl, rfl, h⟩]
    exact List.mem_append_right _ List.mem_cons_self

theorem within_addEdge (g : Graph) (relation : Relation) (topic other : TopicId) :
    g.Within (g.addEdge relation topic other) := by
  unfold addEdge
  split
  · exact .refl g
  · refine within_unsort (within_modifyTopic g topic _ fun other t => ?_)
    rw [Topic.edges_addEdge]
    split
    · exact List.subset_append_left _ _
    · exact List.Subset.refl _

theorem evolves_addEdge (g : Graph) (relation : Relation) {topic : TopicId} (other : TopicId)
    (htopic : topic < g.topics.size) : g.Evolves (g.addEdge relation topic other) False := by
  refine ⟨g.within_addEdge relation topic other, ?_⟩
  by_cases h : other ∈ (g.topic topic).edges relation
  · exact .inl ⟨addEdge_of_mem h, not_false⟩
  · have hadded : other ∈ ((g.addEdge relation topic other).topic topic).edges relation :=
      mem_edges_addEdge other htopic
    rw [addEdge_of_not_mem h] at hadded ⊢
    exact .inr ⟨unsorted_unsort _, .inl (.inr ⟨relation, topic, other, hadded, h⟩)⟩

end AddEdge

end Parley.Graph
