import Parley.Proofs.Bot.Registrations
import Parley.Proofs.Bot.Renumbering

/-!
# The order of registrations does not matter

Triggers that are registered in another order get other numbers, and so do the topics that are
created for them. A topic is found again by its name and a trigger by its subject, which makes one
graph the other under other numbers. As long as the texts of the patterns tell all triggers apart,
ranks are never decided by a number, so all listings and matches are the same.
-/
namespace Parley

/-- An edge between topics, by their names. -/
structure Edge where
  relation : Relation
  topic : String
  other : String

def Edge.operation (edge : Edge) : Operation := .addEdge edge.relation edge.topic edge.other

namespace Registration

def operation (r : Registration) : Operation :=
  .register r.topic r.text r.responses r.previous

/-- The texts of the patterns. -/
def identity (r : Registration) : String × Option String := Bot.identityOf r.patterns

/-- At most one of different registrations has a subject. -/
theorem pairwise_about {registrations : List Registration}
    (h : (registrations.map identity).Nodup) (subject : Subject) :
    (about subject registrations).Pairwise fun _ _ => False := by
  have hfilter := (List.pairwise_map.mp h).filter fun r => decide (r.subject = subject)
  refine hfilter.imp_of_mem fun {r r'} hr hr' hne => hne ?_
  have hsubject := (mem_about.mp hr).2.trans (mem_about.mp hr').2.symm
  exact congrArg Prod.snd hsubject

theorem about_perm {registrations registrations' : List Registration}
    (hperm : registrations.Perm registrations') (h : (registrations.map identity).Nodup)
    (subject : Subject) : about subject registrations' = about subject registrations := by
  have h' := (hperm.map identity).nodup_iff.mp h
  exact (List.Perm.eq_of_pairwise (fun _ _ _ _ hfalse => hfalse.elim) (pairwise_about h subject)
    (pairwise_about h' subject) (hperm.filter _)).symm

end Registration

/-- Triggers that reflect the same registrations differ in their topics at most. -/
theorem Trigger.Reflects.unique {t t' : Trigger} {history : List Registration}
    (h : t.Reflects history) (h' : t'.Reflects history) : t' = { t with topic := t'.topic } := by
  have hlast := Option.some.inj (h.last.symm.trans h'.last)
  have hfirst := Option.some.inj (h.first.symm.trans h'.first)
  simp only [Prod.mk.injEq] at hlast
  obtain ⟨topic, raw, pattern, responses, previous⟩ := t
  obtain ⟨topic', raw', pattern', responses', previous'⟩ := t'
  simp_all

theorem Trigger.kind_eq_plain_iff {t : Trigger} : t.kind = .plain ↔ t.previous = none := by
  rw [kind]
  cases t.previous <;> simp

theorem Trigger.kind_eq_previous_iff {t : Trigger} :
    t.kind = .previous ↔ ∃ condition, t.previous = some condition := by
  rw [kind]
  cases t.previous <;> simp

namespace Graph

/-- A topic of this name exists. -/
def Knows (g : Graph) (name : String) : Prop := ∃ id, g.find? name = some id

theorem find?_congr (g : Graph) {name other : String} (h : Text.key name = Text.key other) :
    g.find? name = g.find? other := by
  rw [find?, find?, h]

theorem knows_ensure {g : Graph} {name other : String} :
    (g.ensure name).Knows other ↔ g.Knows other ∨ Text.key other = Text.key name := by
  constructor
  · intro h
    cases hfind : g.find? name with
    | some id =>
      rw [ensure_of_find? hfind] at h
      exact .inl h
    | none =>
      rw [ensure_of_find?_eq_none hfind] at h
      obtain ⟨id, hid⟩ := h
      obtain ⟨hlt, hname, _⟩ := find?_eq_some_iff.mp hid
      rw [topic_unsort, topic_push] at hname
      by_cases hlast : id = g.topics.size
      · rw [if_pos hlast] at hname
        exact .inr hname.symm
      · rw [if_neg hlast] at hname
        have hlt' : id < g.topics.size + 1 := by simpa using hlt
        exact .inl (exists_find?_of_name
          (Nat.lt_of_le_of_ne (Nat.le_of_lt_succ hlt') hlast) hname)
  · intro h
    obtain ⟨id, hid⟩ | hkey := h
    · exact ⟨id, (g.evolves_ensure name).within.find? hid⟩
    · rw [Knows, find?_congr _ hkey]
      exact g.exists_find?_ensure name

theorem Within.knows_iff {g g' : Graph} (h : g.Within g') (hsize : g'.topics.size = g.topics.size)
    (name : String) : g'.Knows name ↔ g.Knows name := by
  rw [Knows, Knows, h.find?_eq hsize]

/-- A graph that registrations make of another one without triggers. -/
structure Extends (base : Graph) (registrations : List Registration) (g : Graph) : Prop
    extends Registered registrations g where
  within : base.Within g
  edges : base.SameEdges g
  knows : ∀ name, g.Knows name ↔
    base.Knows name ∨ ∃ r ∈ registrations, Text.key name = Text.key r.topic

theorem Registered.extends {g : Graph} (h : g.Registered []) : g.Extends [] g where
  toRegistered := h
  within := .refl g
  edges _ _ := rfl
  knows name := by simp

end Graph

namespace Bot

theorem extends_record {base : Graph} {registrations : List Registration} {b : Bot}
    (h : base.Extends registrations b.graph) (r : Registration) :
    base.Extends (registrations ++ [r]) (b.record r).1.graph where
  toRegistered := (registered_record h.toRegistered r).1
  within := h.within.trans (b.evolves_enrol r.topic r.text r.responses r.patterns).within
  edges := h.edges.trans
    ((b.graph.sameEdges_ensure r.topic).trans (Graph.sameEdges_addTrigger _ _))
  knows name := by
    have hadded : (b.record r).1.graph.Knows name ↔ (b.graph.ensure r.topic).Knows name :=
      (Graph.evolves_addTrigger _ _).within.knows_iff (Graph.size_topics_addTrigger _ _) name
    rw [hadded, Graph.knows_ensure, h.knows]
    simp only [List.mem_append, List.mem_singleton, or_assoc, or_and_right, exists_or,
      exists_eq_left]

theorem extends_sort {base : Graph} {registrations : List Registration} {b : Bot}
    (h : base.Extends registrations b.graph) : base.Extends registrations (b.step .sort).graph where
  toRegistered := h.congr (Graph.kept_wellFormed.sort b.graph b.options.limit h.toWellFormed)
    (b.graph.within_sort b.options.limit) (b.graph.sameTriggers_sort b.options.limit)
  within := h.within.trans (b.graph.within_sort b.options.limit)
  edges := h.edges.trans (Graph.sameEdges_of_unsort_eq (b.graph.unsort_sort b.options.limit))
  knows name := by
    have hsize := b.graph.size_topics_sort b.options.limit
    rw [← h.knows, ← (b.graph.within_sort b.options.limit).knows_iff hsize]
    rfl

theorem extends_run {b : Bot} (h : b.graph.Registered []) (registrations : List Registration) :
    b.graph.Extends registrations (b.run (registrations.map Registration.operation)).graph := by
  induction registrations using List.reverseRecOn with
  | nil => exact h.extends
  | append_singleton registrations r ih =>
    have hstep (b : Bot) : b.step r.operation = (b.record r).1 := by
      rw [Registration.operation, step, register_eq_record]
    rw [List.map_append, List.map_singleton, run_append_singleton, hstep]
    exact extends_record ih r

end Bot

namespace Graph

/-- Topics are found again by their names, and triggers by their subjects. -/
def renumbering (g g' : Graph) (registrations' : List Registration) : Renumbering where
  topic id := g'.idOf (g.topic id).name
  trigger id := (registrations'.map Registration.subject).eraseDups.idxOf (g.subject id)

/-- Two graphs that the same registrations make of another one, in two orders. -/
structure Reordered (base : Graph) (registrations registrations' : List Registration)
    (g g' : Graph) : Prop where
  first : base.Extends registrations g
  second : base.Extends registrations' g'
  perm : registrations.Perm registrations'

namespace Reordered
variable {base g g' : Graph} {registrations registrations' : List Registration}
  (h : base.Reordered registrations registrations' g g')
include h

theorem knows_iff (name : String) : g.Knows name ↔ g'.Knows name := by
  rw [h.first.knows, h.second.knows]
  simp only [h.perm.mem_iff]

theorem find?_renumbering (name : String) :
    g'.find? name = (g.find? name).map (renumbering g g' registrations').topic := by
  cases hfind : g.find? name with
  | some id =>
    obtain ⟨hid, hname⟩ := h.first.find?_eq_some_iff.mp hfind
    have hsame : g'.find? (g.topic id).name = g'.find? name := by
      apply find?_congr
      rw [hname, Text.key_key]
    obtain ⟨id', hfind'⟩ := (h.knows_iff name).mp ⟨id, hfind⟩
    have hid' : (renumbering g g' registrations').topic id = id' := idOf_eq (hsame.trans hfind')
    rw [Option.map_some, hid', hfind']
  | none =>
    rw [Option.map_none, Option.eq_none_iff_forall_ne_some]
    intro id hid
    obtain ⟨id', hid'⟩ := (h.knows_iff name).mpr ⟨id, hid⟩
    rw [hfind] at hid'
    cases hid'

theorem topic_renumbering {id : TopicId} (hid : id < g.topics.size) :
    (renumbering g g' registrations').topic id < g'.topics.size ∧
      (g'.topic ((renumbering g g' registrations').topic id)).name = (g.topic id).name := by
  have hname := h.first.keyed id hid
  have hfind := h.find?_renumbering (g.topic id).name
  rw [h.first.find?_eq_some_iff.mpr ⟨hid, hname.symm⟩, Option.map_some] at hfind
  rw [← hname]
  exact h.second.find?_eq_some_iff.mp hfind

theorem topic_inj {id other : TopicId} (hid : id < g.topics.size)
    (hother : other < g.topics.size) (heq : (renumbering g g' registrations').topic id =
      (renumbering g g' registrations').topic other) : id = other := by
  have hname := (h.topic_renumbering hid).2
  rw [heq, (h.topic_renumbering hother).2] at hname
  exact h.first.unique id hid other hother hname.symm

/-- The topics that were there before the registrations keep their numbers. -/
theorem topic_eq_self {id : TopicId} (hid : id < base.topics.size) :
    (renumbering g g' registrations').topic id = id := by
  have hid' : id < g.topics.size := Nat.lt_of_lt_of_le hid h.first.within.size
  obtain ⟨hlt, hname⟩ := h.topic_renumbering hid'
  refine h.second.unique _ hlt id (Nat.lt_of_lt_of_le hid h.second.within.size) ?_
  rw [hname, h.first.within.name id hid, h.second.within.name id hid]

/-- Edges join topics that were there before, so they are the same. -/
theorem edges_renumbering (hlinked : base.Linked) (relation : Relation) {id : TopicId}
    (hid : id < g.topics.size) :
    (g'.topic ((renumbering g g' registrations').topic id)).edges relation =
      ((g.topic id).edges relation).map (renumbering g g' registrations').topic := by
  rw [h.first.edges, h.second.edges]
  by_cases hold : id < base.topics.size
  · rw [h.topic_eq_self hold, List.map_congr_left fun other hother =>
      h.topic_eq_self (hlinked.edges_lt relation id other hother), List.map_id']
  · have hnot : ¬ (renumbering g g' registrations').topic id < base.topics.size := by
      intro hlt'
      have hself := h.topic_eq_self hlt'
      have hsame := h.topic_inj (Nat.lt_of_lt_of_le hlt' h.first.within.size) hid hself
      rw [hsame] at hlt'
      exact hold hlt'
    rw [topic_of_size_le (Nat.le_of_not_lt hnot), topic_of_size_le (Nat.le_of_not_lt hold),
      Topic.edges_new]
    rfl

theorem subject_renumbering {id : TriggerId} (hid : id < g.triggers.size) :
    (renumbering g g' registrations').trigger id < g'.triggers.size ∧
      g'.subject ((renumbering g g' registrations').trigger id) = g.subject id := by
  have hmem := (h.perm.map Registration.subject).mem_iff.mp
    (h.first.mem_subjects_iff.mpr ⟨id, hid, rfl⟩)
  obtain ⟨id', hid', hsubject⟩ := h.second.mem_subjects_iff.mp hmem
  have hidx := h.second.idxOf_subject hid'
  rw [hsubject] at hidx
  have hnumber : (renumbering g g' registrations').trigger id = id' := hidx
  rw [hnumber]
  exact ⟨hid', hsubject⟩

/-- Every trigger is one that was found again. -/
theorem exists_trigger {id' : TriggerId} (hid' : id' < g'.triggers.size) :
    ∃ id < g.triggers.size, (renumbering g g' registrations').trigger id = id' := by
  have hmem := (h.perm.map Registration.subject).mem_iff.mpr
    (h.second.mem_subjects_iff.mpr ⟨id', hid', rfl⟩)
  obtain ⟨id, hid, hsubject⟩ := h.first.mem_subjects_iff.mp hmem
  obtain ⟨hlt, hsubject'⟩ := h.subject_renumbering hid
  exact ⟨id, hid, h.second.subject_inj hlt hid' (hsubject'.trans hsubject)⟩

theorem trigger_inj {id other : TriggerId} (hid : id < g.triggers.size)
    (hother : other < g.triggers.size) (heq : (renumbering g g' registrations').trigger id =
      (renumbering g g' registrations').trigger other) : id = other := by
  have hsubject := (h.subject_renumbering hid).2
  rw [heq, (h.subject_renumbering hother).2] at hsubject
  exact h.first.subject_inj hid hother hsubject.symm

theorem topic_trigger {id : TriggerId} (hid : id < g.triggers.size) :
    (g'.trigger ((renumbering g g' registrations').trigger id)).topic =
      (renumbering g g' registrations').topic (g.trigger id).topic := by
  obtain ⟨hid', hsubject⟩ := h.subject_renumbering hid
  obtain ⟨howner, hname⟩ := h.topic_renumbering (h.first.topic_lt id hid)
  refine h.second.unique _ (h.second.topic_lt _ hid') _ howner ?_
  rw [hname]
  exact congrArg Prod.fst hsubject

/-- A trigger is found again with all that it holds. -/
theorem trigger_renumbering (hdistinct : (registrations.map Registration.identity).Nodup)
    {id : TriggerId} (hid : id < g.triggers.size) :
    g'.trigger ((renumbering g g' registrations').trigger id) =
      (g.trigger id).renumber (renumbering g g' registrations') := by
  obtain ⟨hid', hsubject⟩ := h.subject_renumbering hid
  have hreflects := h.second.reflects _ hid'
  rw [hsubject, Registration.about_perm h.perm hdistinct] at hreflects
  rw [(h.first.reflects id hid).unique hreflects, h.topic_trigger hid]
  rfl

theorem triggers_renumbering {id : TopicId} (hid : id < g.topics.size) :
    ((g'.topic ((renumbering g g' registrations').topic id)).triggers).Perm
      ((g.topic id).triggers.map (renumbering g g' registrations').trigger) := by
  have hnodup : ((g.topic id).triggers.map (renumbering g g' registrations').trigger).Nodup := by
    refine List.Nodup.map_on (fun a ha b hb => ?_) (h.first.nodup id)
    exact h.trigger_inj (h.first.mem_iff.mp ha).1 (h.first.mem_iff.mp hb).1
  rw [List.perm_ext_iff_of_nodup (h.second.nodup _) hnodup]
  intro id'
  rw [h.second.mem_iff, List.mem_map]
  constructor
  · intro hid'
    obtain ⟨hlt, howner⟩ := hid'
    obtain ⟨trigger, htrigger, rfl⟩ := h.exists_trigger hlt
    rw [h.topic_trigger htrigger] at howner
    have howner' := h.topic_inj (h.first.topic_lt trigger htrigger) hid howner
    exact ⟨trigger, h.first.mem_iff.mpr ⟨htrigger, howner'⟩, rfl⟩
  · intro hid'
    obtain ⟨trigger, hmem, rfl⟩ := hid'
    obtain ⟨htrigger, howner⟩ := h.first.mem_iff.mp hmem
    rw [h.topic_trigger htrigger, howner]
    exact ⟨(h.subject_renumbering htrigger).1, rfl⟩

theorem renumbers (hlinked : base.Linked)
    (hdistinct : (registrations.map Registration.identity).Nodup) :
    g.Renumbers g' (renumbering g g' registrations') (· < g.topics.size) := by
  have howned {id : TriggerId} (hid : g.Owned (· < g.topics.size) id) : id < g.triggers.size := by
    obtain ⟨u, _, hmem⟩ := hid
    exact (h.first.mem_iff.mp hmem).1
  constructor
  · intro u hu
    exact (h.topic_renumbering hu).2
  · intro u hu
    exact h.edges_renumbering hlinked .includes hu
  · intro u hu
    exact h.edges_renumbering hlinked .inherits hu
  · intro u hu v hv
    obtain hv | hv := List.mem_append.mp hv
    · exact h.first.edges_lt .includes u v hv
    · exact h.first.edges_lt .inherits u v hv
  · intro u hu
    exact h.triggers_renumbering hu
  · intro id hid
    exact h.trigger_renumbering hdistinct (howned hid)
  · intro id hid
    exact h.first.topic_lt id (howned hid)
  · intro u v hu hv
    exact h.topic_inj hu hv
  · intro id other hid hother
    exact h.trigger_inj (howned hid) (howned hother)

end Reordered

theorem Registered.identity_inj {g : Graph} {registrations : List Registration}
    (h : g.Registered registrations) (hdistinct : (registrations.map Registration.identity).Nodup)
    {id other : TriggerId} (hid : id < g.triggers.size) (hother : other < g.triggers.size)
    (heq : (g.trigger id).identity = (g.trigger other).identity) : id = other := by
  obtain ⟨r, hr, hsubject⟩ := List.mem_map.mp (h.mem_subjects_iff.mpr ⟨id, hid, rfl⟩)
  obtain ⟨r', hr', hsubject'⟩ := List.mem_map.mp (h.mem_subjects_iff.mpr ⟨other, hother, rfl⟩)
  have hidentity : r.identity = (g.trigger id).identity := congrArg Prod.snd hsubject
  have hidentity' : r'.identity = (g.trigger other).identity := congrArg Prod.snd hsubject'
  have hsame := List.inj_on_of_nodup_map hdistinct hr hr'
    (hidentity.trans (heq.trans hidentity'.symm))
  rw [hsame] at hsubject
  exact h.subject_inj hid hother (hsubject.symm.trans hsubject')

/-- Entries of one kind whose ranks differ in numbers at most have the same texts. -/
theorem identity_of_tied {g : Graph} {kind : Kind} {e other : Entry}
    (hkind : (g.trigger e.trigger).kind = kind) (hkind' : (g.trigger other.trigger).kind = kind)
    (htied : (g.rank kind e).Tied (g.rank kind other)) :
    (g.trigger e.trigger).identity = (g.trigger other.trigger).identity := by
  have hprimary := htied.primary
  have hsecondary := htied.secondary
  cases kind with
  | plain =>
    have hprevious := Trigger.kind_eq_plain_iff.mp hkind
    have hprevious' := Trigger.kind_eq_plain_iff.mp hkind'
    simp only [rank, Trigger.rank] at hprimary
    have htext := congrArg Specificity.text hprimary
    rw [Trigger.identity, Trigger.identity, hprevious, hprevious']
    exact congrArg (·, none) htext
  | previous =>
    obtain ⟨condition, hprevious⟩ := Trigger.kind_eq_previous_iff.mp hkind
    obtain ⟨condition', hprevious'⟩ := Trigger.kind_eq_previous_iff.mp hkind'
    simp only [rank, Trigger.rank, hprevious, hprevious'] at hprimary hsecondary
    have hcondition : condition.text = condition'.text := congrArg Specificity.text hprimary
    have htext : (g.trigger e.trigger).pattern.text = (g.trigger other.trigger).pattern.text :=
      congrArg Specificity.text (Option.some.inj hsecondary)
    rw [Trigger.identity, Trigger.identity, hprevious, hprevious', htext, Option.map_some,
      Option.map_some, hcondition]

/-- Where all triggers have different texts, other numbers leave ranks in their order. -/
theorem Registered.orderly {g : Graph} {registrations : List Registration}
    (h : g.Registered registrations) (hdistinct : (registrations.map Registration.identity).Nodup)
    (ρ : Renumbering) {limit : Nat} {kind : Kind} {s : TopicId} {e other : Entry}
    (he : e ∈ g.visible limit kind s) (hother : other ∈ g.visible limit kind s) :
    ((g.rank kind e).renumber ρ).le ((g.rank kind other).renumber ρ) =
      (g.rank kind e).le (g.rank kind other) := by
  by_cases heq : e = other
  · rw [heq, Rank.le_refl, Rank.le_refl]
  · refine Rank.le_renumber ρ fun htied => heq ?_
    obtain ⟨v, hmem, hkind, _⟩ := (mem_visible_iff.mp he).1
    obtain ⟨v', hmem', hkind', _⟩ := (mem_visible_iff.mp hother).1
    have htrigger := h.identity_inj hdistinct (h.stored v _ hmem) (h.stored v' _ hmem')
      (identity_of_tied hkind hkind' htied)
    have hdepth := htied.depth
    rw [depth_rank, depth_rank] at hdepth
    exact Entry.ext htrigger hdepth

end Graph

namespace Bot

theorem history_edges (b : Bot) (edges : List Edge) :
    b.history (edges.map Edge.operation) = [] := by
  rw [history, List.flatMap_map, List.flatMap_eq_nil_iff]
  exact fun _ _ => rfl

/-- A new bot with edges, to which triggers are added before it is sorted. -/
def assembled (options : Options) (edges : List Edge) (registrations : List Registration) : Bot :=
  (new options).run
    (edges.map Edge.operation ++ registrations.map Registration.operation ++ [.sort])

theorem extends_assembled (options : Options) (edges : List Edge)
    (registrations : List Registration) :
    ((new options).run (edges.map Edge.operation)).graph.Extends registrations
      (assembled options edges registrations).graph := by
  have hedges := registered_run (b := new options) Graph.registered_empty
    (edges.map Edge.operation)
  rw [history_edges, List.append_nil] at hedges
  rw [assembled, run_append_singleton, run_append]
  exact extends_sort (extends_run hedges registrations)

theorem options_assembled (options : Options) (edges : List Edge)
    (registrations : List Registration) :
    (assembled options edges registrations).options = options := options_run (new options) _

theorem listed_assembled (options : Options) (edges : List Edge)
    (registrations : List Registration) : (assembled options edges registrations).graph.Listed
      (assembled options edges registrations).options.limit := by
  rw [assembled, run_append_singleton]
  exact Graph.listed_sort _ _

theorem reordered_assembled (options : Options) (edges : List Edge)
    {registrations registrations' : List Registration} (hperm : registrations.Perm registrations') :
    ((new options).run (edges.map Edge.operation)).graph.Reordered registrations registrations'
      (assembled options edges registrations).graph
      (assembled options edges registrations').graph :=
  ⟨extends_assembled options edges registrations, extends_assembled options edges registrations',
    hperm⟩

/-- Bots to which the same triggers are added in two orders have the same graph under other
numbers, and list it in the same order. -/
theorem alike_assembled (options : Options) (edges : List Edge)
    {registrations registrations' : List Registration} (hperm : registrations.Perm registrations')
    (hdistinct : (registrations.map Registration.identity).Nodup) (arrays : Arrays) :
    let b := assembled options edges registrations
    let b' := assembled options edges registrations'
    ({ b with arrays } : Bot).Alike { b' with arrays }
      (Graph.renumbering b.graph b'.graph registrations') (· < b.graph.topics.size) where
  renumbers := (reordered_assembled options edges hperm).renumbers
    (wellFormed_run options (edges.map Edge.operation)).toLinked hdistinct
  arrays := rfl
  limit := by rw [options_assembled, options_assembled]
  listed := listed_assembled options edges registrations
  listed' := listed_assembled options edges registrations'
  orderly _ _ _ _ he _ hother :=
    (extends_assembled options edges registrations).orderly hdistinct _ he hother

/-- Edges are added to a new bot, then triggers that the texts of their patterns tell apart, in one
of two orders, and the bot is sorted. In both orders the same names are known, the topics list the
same entries, messages have the same matches but for the numbers of the triggers, and sorting
reports the same. -/
theorem registration_order_is_irrelevant (options : Options) (edges : List Edge)
    {registrations registrations' : List Registration} (hperm : registrations.Perm registrations')
    (hdistinct : (registrations.map Registration.identity).Nodup) :
    let b := assembled options edges registrations
    let b' := assembled options edges registrations'
    (∀ topic, b.graph.Knows topic ↔ b'.graph.Knows topic) ∧
    (∀ kind topic, b'.sorted kind topic = b.sorted kind topic) ∧
    (∀ arrays topic message previous,
      (({ b' with arrays } : Bot).matchMessage topic message previous).map
          (Option.map Match.anonymous) =
        (({ b with arrays } : Bot).matchMessage topic message previous).map
          (Option.map Match.anonymous)) ∧
    (∀ topic, SortReport.find? b'.sort.2 topic = SortReport.find? b.sort.2 topic) := by
  intro b b'
  have hreordered := reordered_assembled options edges hperm
  have halike := alike_assembled options edges hperm hdistinct
  have hfind := hreordered.find?_renumbering
  have hpart (topic : String) (s : TopicId) (hs : b.graph.find? topic = some s) :
      s < b.graph.topics.size := Graph.lt_size_of_find? hs
  refine ⟨hreordered.knows_iff, fun kind topic => ?_, fun arrays topic message previous => ?_,
    fun topic => ?_⟩
  · exact (halike b.arrays).sorted (hfind topic) (hpart topic) kind
  · exact (halike arrays).matchMessage (hfind topic) (hpart topic) message previous
  · exact (halike b.arrays).report (hfind topic) (hpart topic)

/-- Of two triggers the one that is registered first gets the number 0, and both are listed
alike. -/
theorem registration_order_is_irrelevant_swapped :
    let greeting := (Registration.read? "sea" "ahoy *" ["aye"] none).toList
    let remark := (Registration.read? "land" "*" ["so it is"] (some "aye")).toList
    let b := assembled .standard [⟨.inherits, "sea", "land"⟩] (greeting ++ remark)
    let b' := assembled .standard [⟨.inherits, "sea", "land"⟩] (remark ++ greeting)
    (greeting ++ remark).length = 2 ∧ (greeting ++ remark).Perm (remark ++ greeting) ∧
      ((greeting ++ remark).map Registration.identity).Nodup ∧
      b'.graph.trigger 0 ≠ b.graph.trigger 0 ∧
      (∀ kind topic, b'.sorted kind topic = b.sorted kind topic) ∧
      ∀ arrays topic message previous,
        (({ b' with arrays } : Bot).matchMessage topic message previous).map
            (Option.map Match.anonymous) =
          (({ b with arrays } : Bot).matchMessage topic message previous).map
            (Option.map Match.anonymous) := by
  intro greeting remark b b'
  have hlength : (greeting ++ remark).length = 2 := by decide +kernel
  have hperm : (greeting ++ remark).Perm (remark ++ greeting) := List.perm_append_comm
  have hdistinct : ((greeting ++ remark).map Registration.identity).Nodup := by decide +kernel
  have hnumbers : b'.graph.trigger 0 ≠ b.graph.trigger 0 := by decide +kernel
  obtain ⟨_, hsorted, hmatches, _⟩ :=
    registration_order_is_irrelevant .standard [⟨.inherits, "sea", "land"⟩] hperm hdistinct
  exact ⟨hlength, hperm, hdistinct, hnumbers, hsorted, hmatches⟩

end Bot
end Parley
