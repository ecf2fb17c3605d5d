import Parley.Proofs.Bot.Arena
import Parley.Proofs.Topic.Cuts
import Parley.Proofs.Topic.Renumbering

/-!
# What a change leaves alone

What a topic lists is made from the topics that edges lead to from it, and from the triggers that
these own. If another graph agrees with the first one on this part, it gives the topic the same
listing and the same report. A change of a single topic is such a case for every topic from which no
edges lead to the changed one: new topics and triggers get numbers that nothing in the part refers
to.
-/
namespace Parley

/-- Everything keeps its number. -/
def Renumbering.same : Renumbering := ⟨id, id⟩

namespace Graph

variable {g g' g'' : Graph} {Part : TopicId → Prop} {s v : TopicId}

/-- A topic can be reached from another one along edges, however many these are. -/
def Leads (g : Graph) (s v : TopicId) : Prop := ∃ n, g.Reaches n s v

/-- Two graphs agree on a part of the first one, in all but the listings that its topics hold. -/
structure Agrees (g g' : Graph) (Part : TopicId → Prop) : Prop where
  topic : ∀ u, Part u → g'.unsort.topic u = g.unsort.topic u
  trigger : ∀ id, g.Owned Part id → g'.trigger id = g.trigger id

theorem Leads.refl (g : Graph) (s : TopicId) : g.Leads s s := ⟨0, .refl g s⟩

theorem closed_leads (g : Graph) (s : TopicId) : g.Closed (g.Leads s) := by
  intro u hu v hv
  obtain ⟨n, hreach⟩ := hu
  obtain hv | hv := List.mem_append.mp hv
  · exact ⟨n + 1, hreach.includes hv⟩
  · exact ⟨n + 1, hreach.inherits hv⟩

theorem Closed.of_leads (h : g.Closed Part) (hs : Part s) (hleads : g.Leads s v) : Part v := by
  obtain ⟨n, i, b, hroute⟩ := hleads
  exact h.of_route hs hroute

theorem Linked.closed (h : g.Linked) : g.Closed (· < g.topics.size) := by
  intro u _ v hv
  obtain hv | hv := List.mem_append.mp hv
  · exact h.edges_lt .includes u v hv
  · exact h.edges_lt .inherits u v hv

namespace Agrees

theorem of_eq (heq : g' = g) : g.Agrees g' Part := by
  subst heq
  exact ⟨fun _ _ => rfl, fun _ _ => rfl⟩

theorem of_unsort_eq (h : g'.unsort = g.unsort) : g.Agrees g' Part where
  topic u _ := by rw [h]
  trigger id _ := (sameTriggers_of_unsort_eq h).trigger_eq id

theorem fields (h : g.Agrees g' Part) {u : TopicId} (hu : Part u) :
    (g'.topic u).name = (g.topic u).name ∧ (g'.topic u).triggers = (g.topic u).triggers ∧
      (g'.topic u).includes = (g.topic u).includes ∧
      (g'.topic u).inherits = (g.topic u).inherits := by
  have htopic := h.topic u hu
  rw [topic_unsort, topic_unsort, Topic.mk.injEq] at htopic
  obtain ⟨hname, htriggers, hincludes, hinherits, _⟩ := htopic
  exact ⟨hname, htriggers, hincludes, hinherits⟩

theorem name (h : g.Agrees g' Part) {u : TopicId} (hu : Part u) :
    (g'.topic u).name = (g.topic u).name := (h.fields hu).1

theorem triggers (h : g.Agrees g' Part) {u : TopicId} (hu : Part u) :
    (g'.topic u).triggers = (g.topic u).triggers := (h.fields hu).2.1

theorem owned (h : g.Agrees g' Part) {id : TriggerId} (hid : g.Owned Part id) :
    g'.Owned Part id := by
  obtain ⟨u, hu, hmem⟩ := hid
  rw [← h.triggers hu] at hmem
  exact ⟨u, hu, hmem⟩

theorem trans (h : g.Agrees g' Part) (h' : g'.Agrees g'' Part) : g.Agrees g'' Part where
  topic u hu := (h'.topic u hu).trans (h.topic u hu)
  trigger id hid := (h'.trigger id (h.owned hid)).trans (h.trigger id hid)

/-- Agreement on a part that no edge leaves is a case of finding it under other numbers. -/
theorem renumbers (h : g.Agrees g' Part) (hfiled : g.Filed) (hclosed : g.Closed Part) :
    g.Renumbers g' .same Part where
  name u hu := h.name hu
  includes u hu := (h.fields hu).2.2.1.trans (List.map_id _).symm
  inherits u hu := (h.fields hu).2.2.2.trans (List.map_id _).symm
  closed := hclosed
  triggers u hu := .of_eq ((h.triggers hu).trans (List.map_id _).symm)
  trigger := h.trigger
  owner id hid := by
    obtain ⟨u, hu, howned⟩ := hid
    rwa [(hfiled.mem_iff.mp howned).2]
  topic_inj _ _ _ _ heq := heq
  trigger_inj _ _ _ _ heq := heq

/-- What graphs agree on they list and report alike. -/
theorem list (h : g.Agrees g' Part) (hfiled : g.Filed) (hclosed : g.Closed Part) (limit : Nat)
    (hs : Part s) : g'.list limit s = g.list limit s := by
  have hrenumbers := h.renumbers hfiled hclosed
  have hentries (kind : Kind) :
      (g'.list limit s).1.entries kind = (g.list limit s).1.entries kind := by
    rw [entries_list, entries_list]
    exact (hrenumbers.sortEntries_renumber hs fun _ _ _ _ => rfl).trans (List.map_id _)
  have hlisting : (g'.list limit s).1 = (g.list limit s).1 :=
    congrArg₂ Listing.mk (hentries .plain) (hentries .previous)
  exact Prod.ext hlisting (hrenumbers.report_renumber hs)

end Agrees

theorem agrees_modifyTopic (g : Graph) {u : TopicId} {change : Topic → Topic}
    (hname : ∀ t, (change t).name = t.name) (hu : ¬ Part u) :
    g.Agrees (g.modifyTopic u change hname).unsort Part where
  topic v hv := by
    have hne : v ≠ u := by
      rintro rfl
      exact hu hv
    rw [unsort_unsort, topic_unsort, topic_unsort, topic_modifyTopic_of_ne g hname hne]
  trigger _ _ := rfl

theorem agrees_addEdge (g : Graph) (relation : Relation) {u : TopicId} (other : TopicId)
    (hu : ¬ Part u) : g.Agrees (g.addEdge relation u other) Part := by
  unfold addEdge
  split
  · exact .of_eq rfl
  · exact g.agrees_modifyTopic _ hu

/-- A topic that is created gets a number beyond the part. -/
theorem agrees_ensure (g : Graph) (name : String) (hlt : ∀ u, Part u → u < g.topics.size) :
    g.Agrees (g.ensure name) Part := by
  cases hfind : g.find? name with
  | some id => exact .of_eq (ensure_of_find? hfind)
  | none =>
    rw [ensure_of_find?_eq_none hfind]
    refine ⟨fun u hu => ?_, fun _ _ => rfl⟩
    rw [unsort_unsort, topic_unsort, topic_unsort, topic_push, if_neg (Nat.ne_of_lt (hlt u hu))]

/-- A topic by name is outside the part if it is unknown or known to be outside. -/
theorem not_part_idOf_ensure (g : Graph) {name : String} (hlt : ∀ u, Part u → u < g.topics.size)
    (hname : ∀ u, g.find? name = some u → ¬ Part u) : ¬ Part ((g.ensure name).idOf name) := by
  intro hpart
  obtain ⟨id, hfind⟩ := g.exists_find?_ensure name
  rw [idOf_eq hfind] at hpart
  have hid := hlt id hpart
  have hwithin := (g.evolves_ensure name).within
  obtain ⟨_, hkey, _⟩ := find?_eq_some_iff.mp hfind
  rw [hwithin.name id hid] at hkey
  obtain ⟨first, hfirst⟩ := exists_find?_of_name hid hkey
  have hsame := hwithin.find? hfirst
  rw [hfind] at hsame
  obtain rfl := Option.some.inj hsame
  exact hname id hfirst hpart

/-- A trigger is replaced in the topic that it names, which is outside the part, or it is added
there under a number that no trigger has. -/
theorem agrees_addTrigger (hfiled : g.Filed) {t : Trigger} (ht : ¬ Part t.topic) :
    g.Agrees (g.addTrigger t).1 Part := by
  cases hfound : g.findTrigger? t.topic t.identity with
  | some found =>
    rw [addTrigger_of_some hfound]
    refine ⟨fun u _ => ?_, fun id hid => ?_⟩
    · rw [topic_unsort, topic_replace, topic_unsort]
    · have hne : id ≠ found := by
        rintro rfl
        obtain ⟨u, hu, howned⟩ := hid
        have hfiled' := (hfiled.mem_iff.mp (List.mem_of_find?_eq_some hfound)).2
        rw [(hfiled.mem_iff.mp howned).2] at hfiled'
        exact ht (hfiled' ▸ hu)
      exact trigger_replace_of_ne g found t hne
  | none =>
    refine ⟨fun u hu => ?_, fun id hid => ?_⟩
    · rw [addTrigger_of_none hfound, append]
      exact (agrees_modifyTopic ({ g with triggers := g.triggers.push t } : Graph) _ ht).topic u hu
    · obtain ⟨u, _, howned⟩ := hid
      have hlt := (hfiled.mem_iff.mp howned).1
      rw [trigger_addTrigger_of_none hfound, if_neg (Nat.ne_of_lt hlt)]

end Graph
end Parley
