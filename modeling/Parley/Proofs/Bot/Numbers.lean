import Parley.Proofs.Bot.Arena
import Parley.Proofs.Bot.Freshness

/-!
# Numbers stand for what they stood for

In every graph that a bot reaches the map of names holds each name with the number of its topic and
nothing else, each trigger is in the list of its own topic only, and a topic that was given a number
keeps it, and its name, for good. So a name finds the report of its topic in that of the last
sorting as long as no topic is new.
-/
namespace Parley

namespace Graph

/-- The parts of a graph fit together. -/
structure WellFormed (g : Graph) : Prop extends Named g, Linked g, Filed g, Backed g

theorem kept_wellFormed : Kept WellFormed where
  ensure g name h := ⟨kept_named.ensure g name h.toNamed, kept_linked.ensure g name h.toLinked,
    kept_filed.ensure g name h.toFiled, kept_backed.ensure g name h.toBacked⟩
  addTrigger g t ht htopic h := ⟨kept_named.addTrigger g t ht htopic h.toNamed,
    kept_linked.addTrigger g t ht htopic h.toLinked,
    kept_filed.addTrigger g t ht htopic h.toFiled, kept_backed.addTrigger g t ht htopic h.toBacked⟩
  addEdge g relation topic other htopic hother h :=
    ⟨kept_named.addEdge g relation topic other htopic hother h.toNamed,
      kept_linked.addEdge g relation topic other htopic hother h.toLinked,
      kept_filed.addEdge g relation topic other htopic hother h.toFiled,
      kept_backed.addEdge g relation topic other htopic hother h.toBacked⟩
  sort g limit h := ⟨kept_named.sort g limit h.toNamed, kept_linked.sort g limit h.toLinked,
    kept_filed.sort g limit h.toFiled, kept_backed.sort g limit h.toBacked⟩

theorem wellFormed_empty : Graph.empty.WellFormed :=
  ⟨named_empty, linked_empty, filed_empty, backed_empty⟩

/-- The map of names holds the names of the topics, each with its own number, and nothing else. -/
theorem Named.getElem?_byName {g : Graph} (h : g.Named) {name : String} {id : TopicId} :
    g.byName[name]? = some id ↔ id < g.topics.size ∧ (g.topic id).name = name := by
  rw [g.byName_eq, Array.findIdx?_eq_some_iff_getElem]
  constructor
  · intro hfind
    obtain ⟨hid, hname, _⟩ := hfind
    exact ⟨hid, by simpa [topic_of_lt hid] using hname⟩
  · intro hid
    obtain ⟨hid, hname⟩ := hid
    refine ⟨hid, by simpa [topic_of_lt hid] using hname, fun j hj hsame => ?_⟩
    have hlt := Nat.lt_trans hj hid
    have hsame' : (g.topic j).name = name := by simpa [topic_of_lt hlt] using hsame
    exact Nat.ne_of_lt hj (h.unique j hlt id hid (hsame'.trans hname.symm))

theorem Named.find?_eq_some_iff {g : Graph} (h : g.Named) {name : String} {id : TopicId} :
    g.find? name = some id ↔ id < g.topics.size ∧ (g.topic id).name = Text.key name :=
  h.getElem?_byName

/-- Each number of a trigger is in the list of one topic, and only once. -/
theorem Filed.flatMap_perm {g : Graph} (h : g.Filed) :
    (g.topicIds.flatMap fun id => (g.topic id).triggers).Perm (List.range g.triggers.size) := by
  refine (List.perm_ext_iff_of_nodup ?_ List.nodup_range).mpr fun id => ?_
  · refine List.nodup_flatMap.mpr ⟨fun topic _ => h.nodup topic, ?_⟩
    refine List.nodup_range.imp fun {first second} hne => ?_
    show List.Disjoint (g.topic first).triggers (g.topic second).triggers
    rw [List.disjoint_left]
    intro id hfirst hsecond
    exact hne ((h.mem_iff.mp hfirst).2.symm.trans (h.mem_iff.mp hsecond).2)
  · rw [List.mem_flatMap, List.mem_range]
    constructor
    · intro hid
      obtain ⟨topic, _, hid⟩ := hid
      exact (h.mem_iff.mp hid).1
    · intro hid
      exact ⟨(g.trigger id).topic, List.mem_range.mpr (h.topic_lt id hid), h.mem_iff.mpr ⟨hid, rfl⟩⟩

theorem find?_topicIds (g : Graph) (name : String) :
    g.topicIds.find? (fun id => (g.topic id).name == Text.key name) = g.find? name := by
  cases hfind : g.find? name with
  | some id =>
    obtain ⟨hid, hname, hbefore⟩ := Graph.find?_eq_some_iff.mp hfind
    rw [topicIds, List.find?_range_eq_some]
    refine ⟨by simpa using hname, List.mem_range.mpr hid, fun j hj => ?_⟩
    simpa using hbefore j hj
  | none =>
    rw [List.find?_eq_none]
    intro id hid hname
    obtain ⟨first, hfirst⟩ := exists_find?_of_name (List.mem_range.mp hid) (by simpa using hname)
    rw [hfind] at hfirst
    cases hfirst

theorem sort_snd (g : Graph) (limit : Nat) :
    (g.sort limit).2 = g.topicIds.map fun id => (g.list limit id).2 := by
  simp [sort, Function.comp_def]

/-- The reports are on the topics in the order of their numbers. -/
theorem map_topic_report (g : Graph) (limit : Nat) :
    (g.sort limit).2.map TopicReport.topic = g.names g.topicIds := by
  rw [sort_snd, List.map_map]
  rfl

theorem getElem?_report {g : Graph} (limit : Nat) {id : TopicId} (hid : id < g.topics.size) :
    (g.sort limit).2[id]? = some (g.list limit id).2 := by
  rw [sort_snd, List.getElem?_map, topicIds, List.getElem?_range hid]
  rfl

/-- The report on a topic is found by the name of the topic. -/
theorem find?_report (g : Graph) (limit : Nat) (name : String) :
    SortReport.find? (g.sort limit).2 name = (g.find? name).map fun id => (g.list limit id).2 := by
  rw [SortReport.find?, sort_snd, List.find?_map, ← find?_topicIds]
  rfl

theorem find?_report_eq_bind (g : Graph) (limit : Nat) (name : String) :
    SortReport.find? (g.sort limit).2 name =
      (g.find? name).bind fun id => (g.sort limit).2[id]? := by
  rw [find?_report]
  cases hfind : g.find? name with
  | none => rfl
  | some id =>
    rw [Option.bind_some, getElem?_report limit (lt_size_of_find? hfind), Option.map_some]

/-- Names are found as before where no topic is new. -/
theorem Within.find?_eq {g g' : Graph} (h : g.Within g') (hsize : g'.topics.size = g.topics.size)
    (name : String) : g'.find? name = g.find? name := by
  cases hfind : g.find? name with
  | some id => exact h.find? hfind
  | none =>
    cases hfind' : g'.find? name with
    | none => rfl
    | some id =>
      obtain ⟨hid, hname, _⟩ := Graph.find?_eq_some_iff.mp hfind'
      rw [hsize] at hid
      rw [h.name id hid] at hname
      obtain ⟨first, hfirst⟩ := exists_find?_of_name hid hname
      rw [hfind] at hfirst
      cases hfirst

end Graph

namespace Bot

theorem within_step (b : Bot) (operation : Operation) :
    b.graph.Within (b.step operation).graph := by
  by_cases hsort : operation = .sort
  · subst hsort
    exact b.graph.within_sort b.options.limit
  · exact (evolves_step hsort).within

/-- Topics keep their numbers and names. -/
theorem within_run (b : Bot) (operations : List Operation) :
    b.graph.Within (b.run operations).graph := by
  induction operations using List.reverseRecOn with
  | nil => exact .refl _
  | append_singleton operations operation ih =>
    rw [run_append_singleton]
    exact ih.trans (within_step _ operation)

theorem wellFormed_run (options : Options) (operations : List Operation) :
    ((new options).run operations).graph.WellFormed :=
  kept_run Graph.kept_wellFormed Graph.wellFormed_empty options operations

end Bot
end Parley
