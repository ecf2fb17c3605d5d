import Parley.Proofs.Bot.Freshness
import Parley.Proofs.Bot.Reordering
import Parley.Proofs.Bot.Scripts

/-!
# The topics that a script creates

A topic comes into being when it is named: by a block, by an edge on either side, or by a trigger
that can be registered. Nothing makes a topic go away. So the topics that a bot knows after a script
are those that it knew before and those that the directives of the script name.
-/
namespace Parley
open Script

namespace Script

/-- The topics that a directive creates, unless they are there. -/
def Directive.topics : Directive → List String
  | .array _ _ => []
  | .topic name includes inherits => name :: (includes ++ inherits)
  | .trigger t => if t.fault?.isNone then [t.topic] else []

/-- The topics that a script creates, unless they are there. -/
def Parsed.topics (script : Parsed) : List String := script.directives.flatMap Directive.topics

end Script

namespace Graph
variable {g : Graph} {name : String}

theorem knows_ensure_ensure {topic other : String} : ((g.ensure topic).ensure other).Knows name ↔
    g.Knows name ∨ Text.key name = Text.key topic ∨ Text.key name = Text.key other := by
  rw [knows_ensure, knows_ensure, or_assoc]

theorem knows_addTrigger (t : Trigger) : (g.addTrigger t).1.Knows name ↔ g.Knows name :=
  (evolves_addTrigger g t).within.knows_iff (size_topics_addTrigger g t) name

theorem knows_addEdge (relation : Relation) (topic other : TopicId) :
    (g.addEdge relation topic other).Knows name ↔ g.Knows name :=
  (g.within_addEdge relation topic other).knows_iff
    (g.size_topics_addEdge relation topic other) name

theorem knows_sort (limit : Nat) : (g.sort limit).1.Knows name ↔ g.Knows name :=
  (within_sort g limit).knows_iff (size_topics_sort g limit) name

theorem Knows.congr {other : String} (h : g.Knows other) (hkey : Text.key name = Text.key other) :
    g.Knows name := by
  rwa [Knows, find?_congr g hkey]

end Graph

namespace Bot

/-- An edge creates the topics on both of its sides. -/
theorem knows_addEdge (b : Bot) (relation : Relation) (topic other name : String) :
    (b.addEdge relation topic other).graph.Knows name ↔
      b.graph.Knows name ∨ Text.key name = Text.key topic ∨ Text.key name = Text.key other :=
  (Graph.knows_addEdge relation _ _).trans Graph.knows_ensure_ensure

/-- Edges from a known topic create the topics on their other side. -/
theorem knows_foldl (relation : Relation) {topic : String} (others : List String) {b : Bot}
    (hb : b.graph.Knows topic) (name : String) :
    (others.foldl (·.addEdge relation topic ·) b).graph.Knows name ↔
      b.graph.Knows name ∨ Text.key name ∈ others.map Text.key := by
  induction others generalizing b with
  | nil => simp
  | cons other others ih =>
    have hstep : (b.addEdge relation topic other).graph.Knows name ↔
        b.graph.Knows name ∨ Text.key name = Text.key other := by
      rw [knows_addEdge]
      exact or_congr_right' fun hunknown => or_iff_right fun hkey => hunknown (hb.congr hkey)
    rw [List.foldl_cons, ih ((b.knows_addEdge relation topic other topic).mpr (.inl hb)), hstep,
      List.map_cons, List.mem_cons, or_assoc]

theorem knows_step_register (b : Bot) (t : TriggerText) (name : String) :
    (b.step (.register t.topic t.pattern t.responses t.previous)).graph.Knows name ↔
      b.graph.Knows name ∨ Text.key name ∈ (Directive.trigger t).topics.map Text.key := by
  rw [Directive.topics]
  cases hfault : t.fault? with
  | some error =>
    rw [step_register_of_fault hfault]
    simp
  | none =>
    cases hread : readPatterns t.pattern t.previous with
    | error error => simp [TriggerText.fault?, fault?, hread] at hfault
    | ok patterns =>
      have henrol : (b.enrol t.topic t.pattern t.responses patterns).1.graph.Knows name ↔
          b.graph.Knows name ∨ Text.key name = Text.key t.topic :=
        (Graph.knows_addTrigger _).trans Graph.knows_ensure
      rw [step, register_of_read hread, henrol]
      simp

theorem knows_perform (b : Bot) (directive : Directive) (name : String) :
    (b.perform directive).graph.Knows name ↔
      b.graph.Knows name ∨ Text.key name ∈ directive.topics.map Text.key := by
  cases directive with
  | array _ _ => simp [perform, defineArray, Directive.topics]
  | topic topic includes inherits =>
    have hensure : (b.ensureTopic topic).graph.Knows name ↔
        b.graph.Knows name ∨ Text.key name = Text.key topic := Graph.knows_ensure
    have htopic : (b.ensureTopic topic).graph.Knows topic := Graph.knows_ensure.mpr (.inr rfl)
    have hincludes := knows_foldl .includes includes htopic
    have hinherits := knows_foldl .inherits inherits ((hincludes topic).mpr (.inl htopic))
    refine (hinherits name).trans ?_
    rw [hincludes, hensure, Directive.topics]
    simp only [List.map_cons, List.map_append, List.mem_cons, List.mem_append, or_assoc]
  | trigger t => exact b.knows_step_register t name

theorem knows_foldl_perform (directives : List Directive) (b : Bot) (name : String) :
    (directives.foldl perform b).graph.Knows name ↔
      b.graph.Knows name ∨ Text.key name ∈ (directives.flatMap Directive.topics).map Text.key := by
  induction directives generalizing b with
  | nil => simp
  | cons directive directives ih =>
    rw [List.foldl_cons, ih, knows_perform, List.flatMap_cons, List.map_append, List.mem_append,
      or_assoc]

/-- A script that is read is loaded, and leaves a bot with the topics it had and those that the
script names. -/
theorem knows_load {b : Bot} {source : String} {script : Parsed}
    (h : Script.read b.scriptRules source = .ok script) (name : String) :
    (b.load source).1.graph.Knows name ↔
      b.graph.Knows name ∨ Text.key name ∈ script.topics.map Text.key := by
  rw [load_of_read h]
  exact knows_foldl_perform script.directives b name

/-- After sorting, a message can be matched in every topic that is known. -/
theorem matchMessage_sort_of_knows {b : Bot} {topic : String} (h : b.graph.Knows topic)
    (message : String) (previous : Option String) :
    ∃ found, b.sort.1.matchMessage topic message previous = .ok found := by
  obtain ⟨id, hfind⟩ := (Graph.knows_sort b.options.limit).mpr h
  have hlisted := b.graph.listed_sort b.options.limit id (Graph.lt_size_of_find? hfind)
  have hlisting : b.sort.1.listing topic = .ok _ := listing_of_sorted_eq_some hfind hlisted
  exact ⟨_, matchMessage_of_listing hlisting message previous⟩

theorem matchMessage_sort_of_not_knows {b : Bot} {topic : String} (h : ¬ b.graph.Knows topic)
    (message : String) (previous : Option String) :
    b.sort.1.matchMessage topic message previous = .error (.unknownTopic topic) := by
  have hunknown : b.sort.1.graph.find? topic = none :=
    Option.eq_none_iff_forall_ne_some.mpr fun id hfind =>
      h ((Graph.knows_sort b.options.limit).mp ⟨id, hfind⟩)
  exact matchMessage_of_error (listing_of_unknown hunknown) message previous

end Bot
end Parley
