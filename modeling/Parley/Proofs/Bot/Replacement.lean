import Mathlib.Data.List.Find
import Parley.Proofs.Bot.Invariants

/-!
# Triggers that are registered again

A trigger that is registered again takes over what is new and keeps its number, its topic and its
condition. Such a replacement changes nothing that topics, edges and other triggers are found by,
so it can be put off until they have been added, and of two replacements of one trigger the last
counts.
-/
namespace Parley

namespace Trigger

/-- A trigger after it was registered again as another one. -/
def replacedBy (old t : Trigger) : Trigger :=
  { old with raw := t.raw, pattern := t.pattern, responses := t.responses }

theorem identity_replacedBy {old t : Trigger} (h : old.identity = t.identity) :
    (old.replacedBy t).identity = old.identity := by
  obtain ⟨hpattern, _⟩ := Prod.mk.inj h
  simp [identity, replacedBy, hpattern]

end Trigger

namespace Graph

/-- The graph after a trigger was registered again. -/
def replace (g : Graph) (id : TriggerId) (t : Trigger) : Graph :=
  ({ g with triggers := g.triggers.modify id (·.replacedBy t) } : Graph).unsort

/-- The graph after a trigger was registered for the first time. -/
def append (g : Graph) (t : Trigger) : Graph :=
  (({ g with triggers := g.triggers.push t } : Graph).modifyTopic t.topic
    (·.addTrigger g.triggers.size) fun topic => topic.name_addTrigger g.triggers.size).unsort

section AddTrigger
variable {g : Graph} {t : Trigger}

theorem addTrigger_of_some {id : TriggerId} (h : g.findTrigger? t.topic t.identity = some id) :
    (g.addTrigger t).1 = g.replace id t := by
  simp only [addTrigger, h]
  rfl

theorem addTrigger_of_none (h : g.findTrigger? t.topic t.identity = none) :
    (g.addTrigger t).1 = g.append t := by
  simp only [addTrigger, h]
  rfl

theorem snd_addTrigger_of_some {id : TriggerId}
    (h : g.findTrigger? t.topic t.identity = some id) : (g.addTrigger t).2 = id := by
  simp only [addTrigger, h]

theorem snd_addTrigger_of_none (h : g.findTrigger? t.topic t.identity = none) :
    (g.addTrigger t).2 = g.triggers.size := by
  simp only [addTrigger, h]

end AddTrigger

theorem unsort_unsort (g : Graph) : g.unsort.unsort = g.unsort :=
  Graph.ext (by simp [unsort, Function.comp_def]) rfl

theorem unsort_modifyTopic_unsort (g : Graph) (id : TopicId) {change : Topic → Topic}
    (hname : ∀ t, (change t).name = t.name)
    (h : ∀ t, { change { t with sorted := none } with sorted := none } =
      { change t with sorted := none }) :
    (g.unsort.modifyTopic id change hname).unsort = (g.modifyTopic id change hname).unsort := by
  refine Graph.ext (Array.ext (by simp) fun i _ _ => ?_) rfl
  simp only [unsort, modifyTopic, Array.getElem_map, Array.getElem_modify]
  split
  · exact h _
  · rfl

/-- A topic can as well be created before listings are dropped. -/
theorem unsort_push_unsort (g : Graph) {name : String} (hnew : g.find? name = none) :
    (g.unsort.push name hnew).unsort = (g.push name hnew).unsort :=
  Graph.ext (by simp [push, unsort, Function.comp_def]) rfl

section Replace
variable (g : Graph) (id : TriggerId) (t : Trigger)

theorem topic_replace (topic : TopicId) :
    (g.replace id t).topic topic = { g.topic topic with sorted := none } := topic_unsort _ topic

theorem size_triggers_replace : (g.replace id t).triggers.size = g.triggers.size := by
  simp [replace]

theorem find?_replace (name : String) : (g.replace id t).find? name = g.find? name :=
  rfl

theorem idOf_replace (name : String) : (g.replace id t).idOf name = g.idOf name := by
  rw [idOf, idOf, find?_replace]

theorem trigger_replace_of_ne {other : TriggerId} (h : other ≠ id) :
    (g.replace id t).trigger other = g.trigger other := by
  simp [trigger, replace, Array.getElem?_modify, Ne.symm h]

theorem trigger_replace_self (h : id < g.triggers.size) :
    (g.replace id t).trigger id = (g.trigger id).replacedBy t := by
  simp [trigger, replace, h, Array.getElem_modify]

/-- A trigger is replaced by one that is found as it was. -/
theorem identity_replace {g : Graph} {id : TriggerId} {t : Trigger} (hid : id < g.triggers.size)
    (hidentity : (g.trigger id).identity = t.identity) (other : TriggerId) :
    ((g.replace id t).trigger other).identity = (g.trigger other).identity := by
  by_cases hother : other = id
  · subst hother
    rw [trigger_replace_self g other t hid, Trigger.identity_replacedBy hidentity]
  · rw [trigger_replace_of_ne g id t hother]

theorem findTrigger?_replace {g : Graph} {id : TriggerId} {t : Trigger} (hid : id < g.triggers.size)
    (hidentity : (g.trigger id).identity = t.identity) (topic : TopicId)
    (identity : String × Option String) :
    (g.replace id t).findTrigger? topic identity = g.findTrigger? topic identity := by
  simp only [findTrigger?, topic_replace, identity_replace hid hidentity]

theorem replace_unsort : g.unsort.replace id t = g.replace id t :=
  unsort_unsort { g with triggers := g.triggers.modify id (·.replacedBy t) }

theorem modifyTopic_replace (topic : TopicId) {change : Topic → Topic}
    (hname : ∀ t, (change t).name = t.name)
    (h : ∀ t, { change { t with sorted := none } with sorted := none } =
      { change t with sorted := none }) :
    ((g.replace id t).modifyTopic topic change hname).unsort =
      (g.modifyTopic topic change hname).replace id t :=
  unsort_modifyTopic_unsort { g with triggers := g.triggers.modify id (·.replacedBy t) } topic
    hname h

theorem ensure_replace (name : String) :
    (g.replace id t).ensure name = (g.ensure name).replace id t := by
  cases h : g.find? name with
  | some topic =>
    rw [ensure_of_find? h, ensure_of_find? ((g.find?_replace id t name).trans h)]
  | none =>
    rw [ensure_of_find?_eq_none h, ensure_of_find?_eq_none ((g.find?_replace id t name).trans h),
      replace_unsort]
    exact unsort_push_unsort { g with triggers := g.triggers.modify id (·.replacedBy t) } h

theorem addEdge_replace (relation : Relation) (topic other : TopicId) :
    (g.replace id t).addEdge relation topic other =
      (g.addEdge relation topic other).replace id t := by
  have hedges : ((g.replace id t).topic topic).edges relation = (g.topic topic).edges relation :=
    edges_unsort { g with triggers := g.triggers.modify id (·.replacedBy t) } topic relation
  unfold addEdge
  rw [hedges]
  split
  · rfl
  · rw [modifyTopic_replace g id t topic, replace_unsort]
    intro t
    cases relation <;> rfl

theorem replace_replace (t' : Trigger) : (g.replace id t).replace id t' = g.replace id t' := by
  have htopics := congrArg Graph.topics g.unsort_unsort
  refine Graph.ext htopics (Array.ext (by simp [replace]) ?_)
  intro i _ _
  simp only [replace, triggers_unsort, Array.getElem_modify]
  split <;> rfl

theorem replace_comm {id' : TriggerId} (h : id ≠ id') (t' : Trigger) :
    (g.replace id t).replace id' t' = (g.replace id' t').replace id t := by
  refine Graph.ext rfl (Array.ext (by simp [replace]) ?_)
  intro i _ _
  simp only [replace, triggers_unsort, Array.getElem_modify]
  split
  · rename_i hid
    rw [if_neg (hid ▸ h), if_neg (hid ▸ h)]
  · rfl

theorem append_replace (hid : id < g.triggers.size) (t' : Trigger) :
    (g.replace id t).append t' = (g.append t').replace id t := by
  have htopics := congrArg Graph.topics (@unsort_modifyTopic_unsort g t'.topic
    (·.addTrigger g.triggers.size) (fun topic => topic.name_addTrigger g.triggers.size)
    fun _ => rfl)
  have htriggers : (g.triggers.modify id (·.replacedBy t)).push t' =
      (g.triggers.push t').modify id (·.replacedBy t) := by
    refine Array.ext (by simp) fun i _ _ => ?_
    simp only [Array.getElem_push, Array.getElem_modify, Array.size_modify]
    grind
  rw [append, append, replace_unsort, size_triggers_replace]
  exact Graph.ext htopics htriggers

end Replace

section Found
variable {g : Graph} {t : Trigger}

theorem findTrigger?_of_sameTriggers {g' : Graph} (h : g.SameTriggers g') (topic : TopicId)
    (identity : String × Option String) :
    g'.findTrigger? topic identity = g.findTrigger? topic identity := by
  simp only [findTrigger?, trigger, h.owned, h.triggers]

theorem identity_of_findTrigger? {topic : TopicId} {identity : String × Option String}
    {id : TriggerId} (h : g.findTrigger? topic identity = some id) :
    (g.trigger id).identity = identity := by
  simpa using List.find?_some (p := fun id => (g.trigger id).identity == identity) h

theorem Stored.lt_of_findTrigger? (hstored : g.Stored) {topic : TopicId}
    {identity : String × Option String} {id : TriggerId}
    (h : g.findTrigger? topic identity = some id) : id < g.triggers.size :=
  hstored topic id (List.mem_of_find?_eq_some h)

theorem trigger_addTrigger_of_none (h : g.findTrigger? t.topic t.identity = none) (id : TriggerId) :
    (g.addTrigger t).1.trigger id = if id = g.triggers.size then t else g.trigger id := by
  simp only [trigger, triggers_addTrigger_of_none h, Array.getElem?_push]
  split <;> rfl

/-- A trigger that is new to its topic is found last. -/
theorem findTrigger?_addTrigger_of_none (hstored : g.Stored) (htopic : t.topic < g.topics.size)
    (h : g.findTrigger? t.topic t.identity = none) (topic : TopicId)
    (identity : String × Option String) : (g.addTrigger t).1.findTrigger? topic identity =
      (g.findTrigger? topic identity).or
        (if topic = t.topic ∧ t.identity = identity then some g.triggers.size else none) := by
  have hold : ((g.topic topic).triggers.find?
      fun id => ((g.addTrigger t).1.trigger id).identity == identity) =
        g.findTrigger? topic identity := by
    refine List.find?_congr fun id hid => ?_
    rw [trigger_addTrigger_of_none h, if_neg (Nat.ne_of_lt (hstored topic id hid))]
  rw [findTrigger?, owned_addTrigger_of_none h htopic, List.find?_append, hold]
  congr 1
  by_cases hsame : topic = t.topic
  · simp [hsame, trigger_addTrigger_of_none h, List.find?_singleton]
  · simp [hsame]

/-- Only a topic that was there before can have a trigger to replace. -/
theorem find?_of_findTrigger?_ensure {name : String} {id : TopicId}
    {identity : String × Option String} {trigger : TriggerId}
    (hid : (g.ensure name).find? name = some id)
    (h : (g.ensure name).findTrigger? id identity = some trigger) :
    g.find? name = some id ∧ g.findTrigger? id identity = some trigger := by
  have hwithin := (g.evolves_ensure name).within
  rw [findTrigger?_of_sameTriggers (g.sameTriggers_ensure name)] at h
  refine ⟨?_, h⟩
  have hlt : id < g.topics.size := by
    by_contra hnot
    have hmem := List.mem_of_find?_eq_some h
    rw [topic_of_size_le (Nat.le_of_not_lt hnot)] at hmem
    cases hmem
  have hname := (find?_eq_some_iff.mp hid).2.1
  rw [hwithin.name id hlt] at hname
  obtain ⟨first, hfirst⟩ := exists_find?_of_name hlt hname
  rw [hfirst, ← hwithin.find? hfirst, hid]

/-- What is found by its identity stays the same when a trigger is registered. -/
theorem findTrigger?_addTrigger (hstored : g.Stored) (htopic : t.topic < g.topics.size)
    {topic : TopicId} {identity : String × Option String} {id : TriggerId}
    (h : g.findTrigger? topic identity = some id) :
    (g.addTrigger t).1.findTrigger? topic identity = some id := by
  cases hfound : g.findTrigger? t.topic t.identity with
  | some found =>
    rw [addTrigger_of_some hfound, findTrigger?_replace (hstored.lt_of_findTrigger? hfound)
      (identity_of_findTrigger? hfound), h]
  | none => rw [findTrigger?_addTrigger_of_none hstored htopic hfound, h, Option.some_or]

theorem exists_findTrigger?_addTrigger (hstored : g.Stored) (htopic : t.topic < g.topics.size) :
    ∃ id, (g.addTrigger t).1.findTrigger? t.topic t.identity = some id := by
  cases hfound : g.findTrigger? t.topic t.identity with
  | some found => exact ⟨found, findTrigger?_addTrigger hstored htopic hfound⟩
  | none =>
    refine ⟨g.triggers.size, ?_⟩
    rw [findTrigger?_addTrigger_of_none hstored htopic hfound, hfound]
    simp

theorem addTrigger_addTrigger (hstored : g.Stored) (htopic : t.topic < g.topics.size) :
    ((g.addTrigger t).1.addTrigger t).1 = (g.addTrigger t).1 := by
  cases hfound : g.findTrigger? t.topic t.identity with
  | some found =>
    rw [addTrigger_of_some (findTrigger?_addTrigger hstored htopic hfound),
      addTrigger_of_some hfound, replace_replace]
  | none =>
    have hnew : (g.addTrigger t).1.findTrigger? t.topic t.identity = some g.triggers.size := by
      rw [findTrigger?_addTrigger_of_none hstored htopic hfound, hfound]
      simp
    have hlast : (g.triggers.push t).modify g.triggers.size (·.replacedBy t) =
        g.triggers.push t := by
      apply Array.ext
      · simp
      · intro i _ _
        rw [Array.getElem_modify]
        split
        · rename_i hi
          subst hi
          simp [Trigger.replacedBy]
        · rfl
    rw [addTrigger_of_some hnew, addTrigger_of_none hfound, append, replace_unsort, replace,
      triggers_modifyTopic, hlast]
    rfl

/-- When a trigger is registered, it does not matter whether another one was replaced before or is
replaced afterwards. -/
theorem addTrigger_replace {id : TriggerId} {t' : Trigger} (hid : id < g.triggers.size)
    (hidentity : (g.trigger id).identity = t'.identity)
    (hne : g.findTrigger? t.topic t.identity ≠ some id) :
    ((g.replace id t').addTrigger t).1 = (g.addTrigger t).1.replace id t' := by
  have hsame := findTrigger?_replace hid hidentity t.topic t.identity
  cases hfound : g.findTrigger? t.topic t.identity with
  | some found =>
    rw [addTrigger_of_some (hsame.trans hfound), addTrigger_of_some hfound]
    exact replace_comm g id t' (fun heq => hne (heq ▸ hfound)) t
  | none =>
    rw [addTrigger_of_none (hsame.trans hfound), addTrigger_of_none hfound]
    exact append_replace g id t' hid t

end Found
end Graph
end Parley
