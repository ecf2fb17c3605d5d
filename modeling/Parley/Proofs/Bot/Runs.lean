import Parley.Bot.Loading
import Parley.Bot.Matching
import Parley.Proofs.Topic.Growth

/-!
# Runs of a bot

The public operations as data, with one step for each and runs of them. A step other than sorting
lets the graph evolve: it changes nothing, or it adds topics, edges or triggers and drops all
listings. For a script this follows directive by directive.
-/
namespace Parley

/-- A public operation that may change a bot. -/
inductive Operation where
  | register (topic text : String) (responses : List String) (previous : Option String)
  | addEdge (relation : Relation) (topic other : String)
  | defineArray (name : String) (entries : List String)
  | load (source : String)
  | sort
  deriving DecidableEq

namespace Bot

/-- The bot that an operation leaves, whatever else its outcome is. -/
def step (b : Bot) : Operation → Bot
  | .register topic text responses previous => (b.register topic text responses previous).1
  | .addEdge relation topic other => b.addEdge relation topic other
  | .defineArray name entries => b.defineArray name entries
  | .load source => (b.load source).1
  | .sort => b.sort.1

def run (b : Bot) (operations : List Operation) : Bot := operations.foldl step b

@[simp] theorem run_append (b : Bot) (first second : List Operation) :
    b.run (first ++ second) = (b.run first).run second := List.foldl_append

theorem run_append_singleton (b : Bot) (operations : List Operation) (operation : Operation) :
    b.run (operations ++ [operation]) = (b.run operations).step operation := by
  rw [run_append]
  rfl

/-- An operation registers a trigger, or registers one again. -/
def Registers (b : Bot) : Operation → Prop
  | .register topic text responses previous =>
    ∃ id, (b.register topic text responses previous).2 = .ok id
  | .load source => ∃ report, (b.load source).2 = .ok report ∧ 0 < report.triggers
  | _ => False

section Register
variable {b : Bot} {topic text : String} {responses : List String} {previous : Option String}

theorem register_of_read {patterns : Pattern × Option Pattern}
    (h : readPatterns text previous = .ok patterns) : b.register topic text responses previous =
      ((b.enrol topic text responses patterns).1,
        .ok (b.enrol topic text responses patterns).2) := by
  simp [register, h]

/-- A pattern that cannot be read keeps a trigger from the bot. -/
theorem register_of_error {error : Error} (h : readPatterns text previous = .error error) :
    b.register topic text responses previous = (b, .error error) := by
  simp [register, h]

/-- Where registering fails, it leaves the bot as it was. -/
theorem fst_register_of_error {error : Error}
    (h : (b.register topic text responses previous).2 = .error error) :
    (b.register topic text responses previous).1 = b := by
  cases hread : readPatterns text previous with
  | ok patterns =>
    rw [register_of_read hread] at h
    cases h
  | error _ => rw [register_of_error hread]

theorem evolves_enrol (b : Bot) (topic text : String) (responses : List String)
    (patterns : Pattern × Option Pattern) :
    b.graph.Evolves (b.enrol topic text responses patterns).1.graph True :=
  ((b.graph.evolves_ensure topic).trans (Graph.evolves_addTrigger _ _)).congr (by simp)

variable (b topic text responses previous)

theorem evolves_register : b.graph.Evolves (b.register topic text responses previous).1.graph
    (∃ id, (b.register topic text responses previous).2 = .ok id) := by
  cases h : readPatterns text previous with
  | ok patterns =>
    rw [register_of_read h]
    exact (b.evolves_enrol topic text responses patterns).congr (by simp)
  | error error =>
    rw [register_of_error h]
    exact (Graph.Evolves.refl _).congr (by simp)

theorem arrays_register : (b.register topic text responses previous).1.arrays = b.arrays := by
  cases h : readPatterns text previous with
  | ok patterns => rw [register_of_read h]; rfl
  | error error => rw [register_of_error h]

theorem options_register : (b.register topic text responses previous).1.options = b.options := by
  cases h : readPatterns text previous with
  | ok patterns => rw [register_of_read h]; rfl
  | error error => rw [register_of_error h]

end Register

theorem evolves_addEdge (b : Bot) (relation : Relation) (topic other : String) :
    b.graph.Evolves (b.addEdge relation topic other).graph False := by
  have hedge := Graph.evolves_addEdge _ relation
    (((b.graph.ensure topic).ensure other).idOf other)
    (b.graph.idOf_lt_size_ensure_ensure topic other)
  exact (((b.graph.evolves_ensure topic).trans (Graph.evolves_ensure _ other)).trans hedge).congr
    (by simp)

theorem addEdge_of_known {b : Bot} {relation : Relation} {topic other : String}
    {id otherId : TopicId} (hid : b.graph.find? topic = some id)
    (hother : b.graph.find? other = some otherId)
    (h : otherId ∈ (b.graph.topic id).edges relation) : b.addEdge relation topic other = b := by
  simp [addEdge, Graph.ensure_of_find? hid, Graph.ensure_of_find? hother, Graph.idOf_eq hid,
    Graph.idOf_eq hother, Graph.addEdge_of_mem h]

theorem evolves_foldl (relation : Relation) (topic : String) (names : List String) (b : Bot) :
    b.graph.Evolves (names.foldl (·.addEdge relation topic ·) b).graph False := by
  induction names generalizing b with
  | nil => exact .refl _
  | cons name names ih =>
    exact ((b.evolves_addEdge relation topic name).trans (ih _)).congr (by simp)

/-- One directive carries the growth of the graph on, and the outcomes tell of registrations. -/
theorem evolves_apply {g : Graph} {a : Applied}
    (h : g.Evolves a.bot.graph (∃ id, .ok id ∈ a.outcomes)) (directive : Script.Directive) :
    g.Evolves (apply a directive).bot.graph (∃ id, .ok id ∈ (apply a directive).outcomes) := by
  cases directive with
  | array name entries => exact h
  | topic name includes inherits =>
    have hensure := a.bot.graph.evolves_ensure name
    have hincludes := evolves_foldl .includes name includes (a.bot.ensureTopic name)
    have hinherits := evolves_foldl .inherits name inherits
      (includes.foldl (·.addEdge .includes name ·) (a.bot.ensureTopic name))
    exact (((h.trans hensure).trans hincludes).trans hinherits).congr (by simp [apply])
  | trigger t =>
    refine (h.trans (a.bot.evolves_register t.topic t.pattern t.responses t.previous)).congr ?_
    simp only [apply, List.mem_cons, exists_or, eq_comm, or_comm]

theorem options_foldl (relation : Relation) (topic : String) (names : List String) (b : Bot) :
    (names.foldl (·.addEdge relation topic ·) b).options = b.options :=
  List.foldlRecOn (motive := fun b' : Bot => b'.options = b.options) names _ rfl
    fun _ h _ _ => h

theorem options_apply (a : Applied) (directive : Script.Directive) :
    (apply a directive).bot.options = a.bot.options := by
  cases directive with
  | array name entries => rfl
  | topic name includes inherits =>
    have hincludes := options_foldl .includes name includes (a.bot.ensureTopic name)
    have hinherits := options_foldl .inherits name inherits
      (includes.foldl (·.addEdge .includes name ·) (a.bot.ensureTopic name))
    exact hinherits.trans hincludes
  | trigger t => exact a.bot.options_register t.topic t.pattern t.responses t.previous

theorem applied_spec {b : Bot} {a : Applied}
    (h : b.graph.Evolves a.bot.graph (∃ id, .ok id ∈ a.outcomes))
    (hoptions : a.bot.options = b.options) (directives : List Script.Directive) :
    let a' := directives.foldl apply a
    b.graph.Evolves a'.bot.graph (∃ id, .ok id ∈ a'.outcomes) ∧ a'.bot.options = b.options := by
  induction directives generalizing a with
  | nil => exact ⟨h, hoptions⟩
  | cons directive directives ih =>
    exact ih (evolves_apply h directive) ((options_apply a directive).trans hoptions)

theorem length_rejected_lt_iff (outcomes : List (Except Error TriggerId)) :
    (outcomes.filterMap error?).length < outcomes.length ↔ ∃ id, .ok id ∈ outcomes := by
  induction outcomes with
  | nil => simp
  | cons outcome outcomes ih =>
    cases outcome with
    | ok id =>
      have hle := List.length_filterMap_le error? outcomes
      refine iff_of_true ?_ ⟨id, by simp⟩
      simp only [List.filterMap_cons, error?, List.length_cons]
      omega
    | error error => simp [error?, ih]

section Load
variable {b : Bot} {source : String}

/-- What is reported of directives that were carried out. -/
def Applied.report (a : Applied) (script : Script.Parsed) : LoadReport where
  version := script.version
  triggers := a.outcomes.reverse.length - (a.outcomes.reverse.filterMap error?).length
  rejected := a.outcomes.reverse.filterMap error?
  warnings := script.warnings.map Script.Warning.message

theorem load_of_applied {script : Script.Parsed}
    (h : Script.read b.scriptRules source = .ok script) :
    let a := script.directives.foldl apply ⟨b, []⟩
    b.load source = (a.bot, .ok (a.report script)) := by
  simp [load, h, Applied.report]

/-- A script that cannot be read is kept from the bot. -/
theorem load_of_error {error : Error} (h : Script.read b.scriptRules source = .error error) :
    b.load source = (b, .error error) := by
  simp [load, h]

/-- Where loading fails, it leaves the bot as it was. -/
theorem fst_load_of_error {error : Error} (h : (b.load source).2 = .error error) :
    (b.load source).1 = b := by
  cases hread : Script.read b.scriptRules source with
  | ok script =>
    rw [load_of_applied hread] at h
    cases h
  | error _ => rw [load_of_error hread]

variable (b source)

theorem load_spec : b.graph.Evolves (b.load source).1.graph
      (∃ report, (b.load source).2 = .ok report ∧ 0 < report.triggers) ∧
    (b.load source).1.options = b.options := by
  cases h : Script.read b.scriptRules source with
  | ok script =>
    obtain ⟨hevolves, hoptions⟩ := applied_spec (b := b) (a := ⟨b, []⟩)
      ((Graph.Evolves.refl _).congr (by simp)) rfl script.directives
    rw [load_of_applied h]
    refine ⟨hevolves.congr ?_, hoptions⟩
    have hcount := length_rejected_lt_iff (script.directives.foldl apply ⟨b, []⟩).outcomes.reverse
    simp only [List.mem_reverse] at hcount
    simp [← hcount, Applied.report, Nat.sub_pos_iff_lt]
  | error error =>
    rw [load_of_error h]
    exact ⟨(Graph.Evolves.refl _).congr (by simp), rfl⟩

end Load

/-- What each directive of a script keeps, loading keeps. -/
theorem load_induction {P : Bot → Prop} {b : Bot} (source : String) (h : P b)
    (happly : ∀ a directive, P a.bot → P (apply a directive).bot) : P (b.load source).1 := by
  cases hread : Script.read b.scriptRules source with
  | ok script =>
    rw [load_of_applied hread]
    exact List.foldlRecOn (motive := fun a : Applied => P a.bot) script.directives apply h
      fun a ha directive _ => happly a directive ha
  | error error => rwa [load_of_error hread]

/-- A step other than sorting lets the graph evolve. -/
theorem evolves_step {b : Bot} {operation : Operation} (h : operation ≠ .sort) :
    b.graph.Evolves (b.step operation).graph (b.Registers operation) := by
  cases operation with
  | register topic text responses previous =>
    exact b.evolves_register topic text responses previous
  | addEdge relation topic other => exact b.evolves_addEdge relation topic other
  | defineArray name entries => exact .refl _
  | load source => exact (b.load_spec source).1
  | sort => exact absurd rfl h

@[simp] theorem options_step (b : Bot) (operation : Operation) :
    (b.step operation).options = b.options := by
  cases operation with
  | register topic text responses previous =>
    exact b.options_register topic text responses previous
  | load source => exact (b.load_spec source).2
  | addEdge relation topic other => rfl
  | defineArray name entries => rfl
  | sort => rfl

end Bot
end Parley
