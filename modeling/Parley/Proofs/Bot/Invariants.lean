import Parley.Proofs.Bot.Runs
import Parley.Proofs.Topic.Listings

/-!
# What runs keep

All that a bot does to its graph is a few changes of the graph, with triggers whose patterns were
read and topics that exist. A property that each of these changes keeps therefore holds after any
run of operations on a new bot, scripts included. Only one of the changes concerns triggers.
-/
namespace Parley

/-- The patterns of a trigger were read, the one for the message from its own text. -/
structure Trigger.Compiled (t : Trigger) : Prop where
  pattern : Pattern.read t.raw = .ok t.pattern
  previous : ∀ condition, t.previous = some condition → ∃ text, Pattern.read text = .ok condition

/-- A property of graphs that the changes a bot makes keep. -/
structure Graph.Kept (P : Graph → Prop) : Prop where
  ensure : ∀ (g : Graph) (name : String), P g → P (g.ensure name)
  addTrigger : ∀ (g : Graph) (t : Trigger), t.Compiled → t.topic < g.topics.size → P g →
    P (g.addTrigger t).1
  addEdge : ∀ (g : Graph) (relation : Relation) (topic other : TopicId), topic < g.topics.size →
    other < g.topics.size → P g → P (g.addEdge relation topic other)
  sort : ∀ (g : Graph) (limit : Nat), P g → P (g.sort limit).1

namespace Bot

theorem readPattern_eq_ok_iff {text : String} {pattern : Pattern} :
    readPattern text = .ok pattern ↔ Pattern.read text = .ok pattern := by
  unfold readPattern
  split
  · rename_i p hread
    simp [hread]
  · rename_i cause hread
    simp [hread]

theorem exists_read_of_readPattern? {previous : Option String} {condition : Option Pattern}
    (h : readPattern? previous = .ok condition) {pattern : Pattern}
    (hsome : condition = some pattern) : ∃ text, Pattern.read text = .ok pattern := by
  subst hsome
  cases previous with
  | none => cases h
  | some text =>
    rw [readPattern?] at h
    cases hread : readPattern text with
    | ok p =>
      obtain rfl : p = pattern := by simpa [hread, Except.map] using h
      exact ⟨text, readPattern_eq_ok_iff.mp hread⟩
    | error error => simp [hread, Except.map] at h

theorem readPatterns_eq_ok_iff {text : String} {previous : Option String}
    {patterns : Pattern × Option Pattern} : readPatterns text previous = .ok patterns ↔
      readPattern text = .ok patterns.1 ∧ readPattern? previous = .ok patterns.2 := by
  unfold readPatterns
  cases readPattern text with
  | error e => simp [bind, Except.bind]
  | ok pattern =>
    cases readPattern? previous with
    | error e => simp [bind, Except.bind]
    | ok condition => simp [bind, Except.bind, pure, Except.pure, Prod.ext_iff]

section Kept
variable {P : Graph → Prop}

theorem kept_foldl {α : Type} {change : Bot → α → Bot} {items : List α} {b : Bot}
    (h : P b.graph) (hchange : ∀ b item, P b.graph → P (change b item).graph) :
    P (items.foldl change b).graph :=
  List.foldlRecOn (motive := fun b : Bot => P b.graph) items change h
    fun b hb item _ => hchange b item hb

variable (kept : Graph.Kept P)
include kept

theorem kept_register {b : Bot} (topic text : String) (responses : List String)
    (previous : Option String) (h : P b.graph) :
    P (b.register topic text responses previous).1.graph := by
  cases hread : readPatterns text previous with
  | ok patterns =>
    obtain ⟨hpattern, hcondition⟩ := readPatterns_eq_ok_iff.mp hread
    rw [register_of_read hread]
    have hcompiled : Trigger.Compiled
        { topic := (b.graph.ensure topic).idOf topic, raw := text, pattern := patterns.1, responses,
          previous := patterns.2 } :=
      ⟨readPattern_eq_ok_iff.mp hpattern,
        fun _ hsome => exists_read_of_readPattern? hcondition hsome⟩
    exact kept.addTrigger _ _ hcompiled (b.graph.idOf_lt_size_ensure topic) (kept.ensure _ topic h)
  | error error => rwa [register_of_error hread]

theorem kept_addEdge {b : Bot} (relation : Relation) (topic other : String) (h : P b.graph) :
    P (b.addEdge relation topic other).graph :=
  kept.addEdge _ relation _ _ (b.graph.idOf_lt_size_ensure_ensure topic other)
    ((b.graph.ensure topic).idOf_lt_size_ensure other) (kept.ensure _ other (kept.ensure _ topic h))

theorem kept_apply {a : Applied} (directive : Script.Directive) (h : P a.bot.graph) :
    P (apply a directive).bot.graph := by
  cases directive with
  | array name entries => exact h
  | topic name includes inherits =>
    refine kept_foldl (kept_foldl (kept.ensure _ name h) ?_) ?_
    · exact fun b other hb => kept_addEdge kept .includes name other hb
    · exact fun b other hb => kept_addEdge kept .inherits name other hb
  | trigger t => exact kept_register kept t.topic t.pattern t.responses t.previous h

/-- One operation keeps what the single changes keep. -/
theorem kept_step {b : Bot} (operation : Operation) (h : P b.graph) :
    P (b.step operation).graph := by
  cases operation with
  | register topic text responses previous =>
    exact kept_register kept topic text responses previous h
  | addEdge relation topic other => exact kept_addEdge kept relation topic other h
  | defineArray name entries => exact h
  | load source =>
    exact load_induction (P := fun b => P b.graph) source h
      fun _ directive ha => kept_apply kept directive ha
  | sort => exact kept.sort _ _ h

/-- What the single changes keep, and the empty graph has, holds after every run. -/
theorem kept_run (hempty : P .empty) (options : Options) (operations : List Operation) :
    P ((new options).run operations).graph :=
  kept_foldl hempty fun _ operation hb => kept_step kept operation hb

end Kept
end Bot

namespace Graph

/-- Two graphs have the same triggers, in the same topics. -/
structure SameTriggers (g g' : Graph) : Prop where
  triggers : g'.triggers = g.triggers
  owned : ∀ id, (g'.topic id).triggers = (g.topic id).triggers

theorem SameTriggers.trans {g g' g'' : Graph} (h : g.SameTriggers g') (h' : g'.SameTriggers g'') :
    g.SameTriggers g'' :=
  ⟨h'.triggers.trans h.triggers, fun id => (h'.owned id).trans (h.owned id)⟩

theorem sameTriggers_of_unsort_eq {g g' : Graph} (h : g'.unsort = g.unsort) :
    g.SameTriggers g' where
  triggers := by
    have htriggers := congrArg Graph.triggers h
    exact htriggers
  owned id := by
    have htopic := congrArg (fun g : Graph => (g.topic id).triggers) h
    simpa only [topic_unsort] using htopic

theorem sameTriggers_sort (g : Graph) (limit : Nat) : g.SameTriggers (g.sort limit).1 :=
  sameTriggers_of_unsort_eq (g.unsort_sort limit)

theorem sameTriggers_ensure (g : Graph) (name : String) : g.SameTriggers (g.ensure name) := by
  cases h : g.find? name with
  | some id =>
    rw [ensure_of_find? h]
    exact ⟨rfl, fun _ => rfl⟩
  | none =>
    rw [ensure_of_find?_eq_none h]
    refine ⟨rfl, fun id => ?_⟩
    rw [topic_unsort, topic_push]
    split
    · rename_i hid
      rw [topic_of_size_le (Nat.le_of_eq hid.symm), Topic.new, Topic.new]
    · rfl

theorem sameTriggers_addEdge (g : Graph) (relation : Relation) (topic other : TopicId) :
    g.SameTriggers (g.addEdge relation topic other) := by
  unfold addEdge
  split
  · exact ⟨rfl, fun _ => rfl⟩
  · refine ⟨rfl, fun id => ?_⟩
    rw [topic_unsort, topic_modifyTopic]
    split
    · exact Topic.triggers_addEdge ..
    · rfl

/-- A property of the triggers alone is kept if registering a trigger keeps it. -/
theorem Kept.of_sameTriggers {P : Graph → Prop}
    (hsame : ∀ g g' : Graph, g.SameTriggers g' → P g → P g')
    (haddTrigger : ∀ (g : Graph) (t : Trigger), t.Compiled → t.topic < g.topics.size → P g →
      P (g.addTrigger t).1) : Kept P where
  ensure g name := hsame _ _ (g.sameTriggers_ensure name)
  addTrigger := haddTrigger
  addEdge g relation topic other _ _ := hsame _ _ (g.sameTriggers_addEdge relation topic other)
  sort g limit := hsame _ _ (g.sameTriggers_sort limit)

section Register
variable {g : Graph} {t : Trigger}

theorem triggers_addTrigger_of_some {id : TriggerId}
    (h : g.findTrigger? t.topic t.identity = some id) :
    (g.addTrigger t).1.triggers = g.triggers.modify id fun old =>
      { old with raw := t.raw, pattern := t.pattern, responses := t.responses } := by
  simp [addTrigger, h]

theorem triggers_addTrigger_of_none (h : g.findTrigger? t.topic t.identity = none) :
    (g.addTrigger t).1.triggers = g.triggers.push t := by
  simp [addTrigger, h]

theorem owned_addTrigger_of_some {id : TriggerId}
    (h : g.findTrigger? t.topic t.identity = some id) (topic : TopicId) :
    ((g.addTrigger t).1.topic topic).triggers = (g.topic topic).triggers := by
  simp only [addTrigger, h, topic_unsort]
  rfl

theorem owned_addTrigger_of_none (h : g.findTrigger? t.topic t.identity = none)
    (htopic : t.topic < g.topics.size) (topic : TopicId) :
    ((g.addTrigger t).1.topic topic).triggers =
      (g.topic topic).triggers ++ if topic = t.topic then [g.triggers.size] else [] := by
  simp only [addTrigger, h, topic_unsort]
  split
  · rename_i hsame
    subst hsame
    rw [topic_modifyTopic_self ({ g with triggers := g.triggers.push t } : Graph) _ htopic]
    rfl
  · rename_i hne
    rw [topic_modifyTopic_of_ne _ _ hne, List.append_nil]
    rfl

end Register

/-- Topics own triggers that exist. -/
def Stored (g : Graph) : Prop := ∀ topic, ∀ id ∈ (g.topic topic).triggers, id < g.triggers.size

theorem Stored.congr {g g' : Graph} (h : g.Stored) (hsame : g.SameTriggers g') : g'.Stored := by
  intro topic id hid
  rw [hsame.owned] at hid
  rw [hsame.triggers]
  exact h topic id hid

theorem stored_empty : Graph.empty.Stored := fun _ _ hid => nomatch hid

theorem Stored.addTrigger {g : Graph} {t : Trigger} (h : g.Stored)
    (htopic : t.topic < g.topics.size) : (g.addTrigger t).1.Stored := by
  intro topic id hid
  cases hfound : g.findTrigger? t.topic t.identity with
  | some found =>
    rw [owned_addTrigger_of_some hfound] at hid
    rw [triggers_addTrigger_of_some hfound, Array.size_modify]
    exact h topic id hid
  | none =>
    rw [owned_addTrigger_of_none hfound htopic, List.mem_append] at hid
    rw [triggers_addTrigger_of_none hfound, Array.size_push]
    obtain hold | hnew := hid
    · exact Nat.lt_succ_of_lt (h topic id hold)
    · split at hnew
      · rw [List.mem_singleton.mp hnew]
        exact Nat.lt_succ_self _
      · cases hnew

theorem kept_stored : Kept Stored :=
  .of_sameTriggers (fun _ _ hsame h => h.congr hsame) fun _ _ _ htopic h => h.addTrigger htopic

end Graph
end Parley
