import Mathlib.Data.List.Induction
import Parley.Proofs.Bot.Replacement
import Parley.Proofs.Bot.Scripts

/-!
# Loading a script again

Each change that a script makes to a bot either adds what stays for good or replaces what is known
already. Of two changes of one thing the later counts, and changes of different things do not get in
each other's way. So a script that was loaded can be loaded again, with the same report and without
any effect, however often it mentions one thing.
-/
namespace Parley

/-- Steps that make something known, which then stays known. A step at what is known either makes up
for the step before it or could as well have been taken first. -/
structure Overwrites {S D : Type} (step : S → D → S) (Valid : S → Prop) (Known : S → D → Prop) :
    Prop where
  valid : ∀ {s} d, Valid s → Valid (step s d)
  known : ∀ {s} d, Valid s → Known (step s d) d
  remains : ∀ {s d'} d, Valid s → Known s d' → Known (step s d) d'
  repeats : ∀ {s} d, Valid s → step (step s d) d = step s d
  yields : ∀ {s d'} d, Valid s → Known s d' →
    step (step s d) d' = step s d' ∨ step (step s d) d' = step (step s d') d

namespace Overwrites
variable {S D : Type} {step : S → D → S} {Valid : S → Prop} {Known : S → D → Prop}

/-- If a step is taken after known ones, it does not matter whether it was taken before them too. -/
theorem step_foldl_step (h : Overwrites step Valid Known) {s : S} (hs : Valid s) {ds : List D}
    (hknown : ∀ d' ∈ ds, Known s d') (d : D) :
    step (ds.foldl step (step s d)) d = step (ds.foldl step s) d := by
  induction ds generalizing s with
  | nil => exact h.repeats d hs
  | cons d' ds ih =>
    obtain ⟨hd', hds⟩ := List.forall_mem_cons.mp hknown
    rw [List.foldl_cons, List.foldl_cons]
    obtain heq | heq := h.yields d hs hd'
    · rw [heq]
    · rw [heq]
      exact ih (h.valid d' hs) fun other hother => h.remains d' hs (hds other hother)

theorem valid_foldl (h : Overwrites step Valid Known) {s : S} (hs : Valid s) (ds : List D) :
    Valid (ds.foldl step s) :=
  List.foldlRecOn ds step hs fun _ hs d _ => h.valid d hs

theorem known_foldl (h : Overwrites step Valid Known) {s : S} (hs : Valid s) {ds : List D} {d : D}
    (hd : d ∈ ds) : Known (ds.foldl step s) d := by
  induction ds using List.reverseRecOn with
  | nil => cases hd
  | append_singleton ds last ih =>
    rw [List.foldl_concat]
    obtain hd | hd := List.mem_append.mp hd
    · exact h.remains last (h.valid_foldl hs ds) (ih hd)
    · rw [List.mem_singleton.mp hd]
      exact h.known last (h.valid_foldl hs ds)

/-- Steps that were all taken change nothing if they are taken again in the same order. -/
theorem foldl_foldl (h : Overwrites step Valid Known) {s : S} (hs : Valid s) (ds : List D) :
    ds.foldl step (ds.foldl step s) = ds.foldl step s := by
  induction ds using List.reverseRecOn with
  | nil => rfl
  | append_singleton ds d ih =>
    rw [List.foldl_concat, List.foldl_concat,
      h.step_foldl_step (h.valid_foldl hs ds) (fun d' hd' => h.known_foldl hs hd') d, ih]

end Overwrites

namespace Arrays

theorem mem_keys_setRow {name other : String} {phrases : List Phrase}
    {rows : List (String × List Phrase)} : other ∈ (setRow name phrases rows).map Prod.fst ↔
      other = name ∨ other ∈ rows.map Prod.fst := by
  induction rows with
  | nil => simp [setRow]
  | cons row rest ih =>
    by_cases hname : row.1 = name
    · simp [setRow, hname]
    · rw [setRow, if_neg hname, List.map_cons, List.map_cons, List.mem_cons, List.mem_cons, ih]
      exact or_left_comm

theorem setRow_setRow (name : String) (first second : List Phrase)
    (rows : List (String × List Phrase)) :
    setRow name second (setRow name first rows) = setRow name second rows := by
  induction rows with
  | nil => simp [setRow]
  | cons row rest ih =>
    by_cases hname : row.1 = name
    · simp [setRow, hname]
    · simp [setRow, hname, ih]

/-- A row that is there keeps its place, so a row of another name can as well be set after it. -/
theorem setRow_comm {name other : String} (hne : name ≠ other) {rows : List (String × List Phrase)}
    (h : other ∈ rows.map Prod.fst) (first second : List Phrase) :
    setRow other second (setRow name first rows) =
      setRow name first (setRow other second rows) := by
  induction rows with
  | nil => cases h
  | cons row rest ih =>
    by_cases hother : row.1 = other
    · have hname : row.1 ≠ name := fun heq => hne (heq.symm.trans hother)
      simp [setRow, hother, hne.symm]
    · have hrest := List.mem_of_ne_of_mem (Ne.symm hother) h
      by_cases hname : row.1 = name
      · simp [setRow, hname, hne]
      · simp [setRow, hname, hother, ih hrest]

/-- The names of the arrays that are defined. -/
def names (arrays : Arrays) : List String := arrays.rows.map Prod.fst

theorem mem_names_define {arrays : Arrays} {name other : String} {entries : List String} :
    other ∈ (arrays.define name entries).names ↔
      other = Text.lowercased name ∨ other ∈ arrays.names := mem_keys_setRow

theorem define_define (arrays : Arrays) {name name' : String}
    (h : Text.lowercased name = Text.lowercased name') (entries entries' : List String) :
    (arrays.define name entries).define name' entries' = arrays.define name' entries' := by
  rw [define, define, define, h]
  exact congrArg mk (setRow_setRow ..)

theorem define_comm {arrays : Arrays} {name name' : String}
    (hne : Text.lowercased name ≠ Text.lowercased name') (h : Text.lowercased name' ∈ arrays.names)
    (entries entries' : List String) : (arrays.define name entries).define name' entries' =
      (arrays.define name' entries').define name entries :=
  congrArg mk (setRow_comm hne h _ _)

end Arrays

/-- A single change of a bot, which always succeeds. -/
inductive Change where
  | ensure (name : String)
  | addEdge (relation : Relation) (topic other : String)
  | define (name : String) (entries : List String)
  | enrol (topic text : String) (responses : List String) (patterns : Pattern × Option Pattern)

/-- A change does nothing where what it adds is there already. -/
def Change.Lasting : Change → Prop
  | .ensure _ | .addEdge _ _ _ => True
  | .define _ _ | .enrol _ _ _ _ => False

namespace Bot
open Script

/-- The texts by which a trigger with these patterns is found. -/
def identityOf (patterns : Pattern × Option Pattern) : String × Option String :=
  (patterns.1.text, patterns.2.map Pattern.text)

def change (b : Bot) : Change → Bot
  | .ensure name => b.ensureTopic name
  | .addEdge relation topic other => b.addEdge relation topic other
  | .define name entries => b.defineArray name entries
  | .enrol topic text responses patterns => (b.enrol topic text responses patterns).1

def changes : Directive → List Change
  | .array name entries => [.define name entries]
  | .topic name includes inherits =>
    .ensure name ::
      (includes.map (.addEdge .includes name) ++ inherits.map (.addEdge .inherits name))
  | .trigger t =>
    match readPatterns t.pattern t.previous with
    | .ok patterns => [.enrol t.topic t.pattern t.responses patterns]
    | .error _ => []

theorem foldl_change_changes (b : Bot) (directive : Directive) :
    (changes directive).foldl change b = b.perform directive := by
  cases directive with
  | array name entries => rfl
  | topic name includes inherits =>
    simp only [changes, List.foldl_cons, List.foldl_append, List.foldl_map]
    rfl
  | trigger t =>
    rw [changes, perform, step]
    cases hread : readPatterns t.pattern t.previous with
    | ok patterns => rw [register_of_read hread]; rfl
    | error error => rw [register_of_error hread]; rfl

theorem foldl_perform (b : Bot) (directives : List Directive) :
    directives.foldl perform b = (directives.flatMap changes).foldl change b := by
  rw [List.foldl_flatMap]
  exact congrArg (directives.foldl · b) (funext₂ fun b directive =>
    (foldl_change_changes b directive).symm)

/-- What a change is about is there already. -/
def Known (b : Bot) : Change → Prop
  | .ensure name => ∃ id, b.graph.find? name = some id
  | .addEdge relation topic other => ∃ id otherId, b.graph.find? topic = some id ∧
      b.graph.find? other = some otherId ∧ otherId ∈ (b.graph.topic id).edges relation
  | .define name _ => Text.lowercased name ∈ b.arrays.names
  | .enrol topic _ _ patterns => ∃ id trigger, b.graph.find? topic = some id ∧
      b.graph.findTrigger? id (identityOf patterns) = some trigger

/-- All that changes are about in one bot is there in another one, by the same numbers. -/
structure Keeps (b b' : Bot) : Prop where
  within : b.graph.Within b'.graph
  found : ∀ {topic identity id}, b.graph.findTrigger? topic identity = some id →
    b'.graph.findTrigger? topic identity = some id
  defined : b.arrays.names ⊆ b'.arrays.names

theorem Keeps.known {b b' : Bot} (h : b.Keeps b') {c : Change} (hc : b.Known c) : b'.Known c := by
  cases c with
  | ensure name =>
    obtain ⟨id, hid⟩ := hc
    exact ⟨id, h.within.find? hid⟩
  | addEdge relation topic other =>
    obtain ⟨id, otherId, hid, hother, hedge⟩ := hc
    exact ⟨id, otherId, h.within.find? hid, h.within.find? hother,
      h.within.edges relation id hedge⟩
  | define name entries => exact h.defined hc
  | enrol topic text responses patterns =>
    obtain ⟨id, trigger, hid, htrigger⟩ := hc
    exact ⟨id, trigger, h.within.find? hid, h.found htrigger⟩

/-- A trigger as its topic is given it. -/
def enrolled (topic : TopicId) (text : String) (responses : List String)
    (patterns : Pattern × Option Pattern) : Trigger :=
  { topic, raw := text, pattern := patterns.1, responses, previous := patterns.2 }

section Enrol
variable {b : Bot} {topic text : String} {responses : List String}
  {patterns : Pattern × Option Pattern}

theorem enrol_of_find? {id : TopicId} (h : (b.graph.ensure topic).find? topic = some id) :
    (b.enrol topic text responses patterns).1 = { b with
      graph := ((b.graph.ensure topic).addTrigger (enrolled id text responses patterns)).1 } := by
  rw [enrolled, ← Graph.idOf_eq h]
  rfl

theorem enrol_of_known {id : TopicId} {trigger : TriggerId} (hid : b.graph.find? topic = some id)
    (htrigger : b.graph.findTrigger? id (identityOf patterns) = some trigger) :
    (b.enrol topic text responses patterns).1 = { b with
      graph := b.graph.replace trigger (enrolled id text responses patterns) } := by
  have hensure := Graph.ensure_of_find? hid
  rw [enrol_of_find? (hensure ▸ hid), hensure,
    Graph.addTrigger_of_some (t := enrolled id text responses patterns) htrigger]

end Enrol

section Change
variable {b : Bot}

theorem sameTriggers_addEdge (b : Bot) (relation : Relation) (topic other : String) :
    b.graph.SameTriggers (b.addEdge relation topic other).graph :=
  ((b.graph.sameTriggers_ensure topic).trans (Graph.sameTriggers_ensure _ other)).trans
    (Graph.sameTriggers_addEdge _ _ _ _)

theorem keeps_of_sameTriggers {b b' : Bot} (hwithin : b.graph.Within b'.graph)
    (hsame : b.graph.SameTriggers b'.graph) (harrays : b'.arrays = b.arrays) : b.Keeps b' :=
  ⟨hwithin, fun h => (Graph.findTrigger?_of_sameTriggers hsame ..).trans h, by simp [harrays]⟩

theorem keeps_change (hstored : b.graph.Stored) (c : Change) : b.Keeps (b.change c) := by
  cases c with
  | ensure name =>
    exact keeps_of_sameTriggers (b.graph.evolves_ensure name).within
      (b.graph.sameTriggers_ensure name) rfl
  | addEdge relation topic other =>
    exact keeps_of_sameTriggers (b.evolves_addEdge relation topic other).within
      (b.sameTriggers_addEdge relation topic other) rfl
  | define name entries =>
    exact ⟨.refl _, fun h => h, fun other hother => Arrays.mem_names_define.mpr (.inr hother)⟩
  | enrol topic text responses patterns =>
    obtain ⟨id, hid⟩ := b.graph.exists_find?_ensure topic
    have hsame := b.graph.sameTriggers_ensure topic
    rw [change, enrol_of_find? hid]
    refine ⟨(b.graph.evolves_ensure topic).within.trans (Graph.evolves_addTrigger _ _).within,
      fun h => ?_, List.Subset.refl _⟩
    rw [← Graph.findTrigger?_of_sameTriggers hsame] at h
    exact Graph.findTrigger?_addTrigger (hstored.congr hsame) (Graph.lt_size_of_find? hid) h

theorem stored_change (hstored : b.graph.Stored) (c : Change) : (b.change c).graph.Stored := by
  cases c with
  | ensure name => exact hstored.congr (b.graph.sameTriggers_ensure name)
  | addEdge relation topic other =>
    exact hstored.congr (b.sameTriggers_addEdge relation topic other)
  | define name entries => exact hstored
  | enrol topic text responses patterns =>
    exact (hstored.congr (b.graph.sameTriggers_ensure topic)).addTrigger
      (b.graph.idOf_lt_size_ensure topic)

theorem known_addEdge (b : Bot) (relation : Relation) (topic other : String) :
    (b.addEdge relation topic other).Known (.addEdge relation topic other) := by
  obtain ⟨id, hid⟩ := b.graph.exists_find?_ensure topic
  obtain ⟨otherId, hother⟩ := (b.graph.ensure topic).exists_find?_ensure other
  replace hid := ((b.graph.ensure topic).evolves_ensure other).within.find? hid
  have hlt := Graph.lt_size_of_find? hid
  have hwithin := Graph.within_addEdge ((b.graph.ensure topic).ensure other) relation id otherId
  rw [addEdge, Graph.idOf_eq hid, Graph.idOf_eq hother]
  exact ⟨id, otherId, hwithin.find? hid, hwithin.find? hother,
    Graph.mem_edges_addEdge otherId hlt⟩

theorem known_change (hstored : b.graph.Stored) (c : Change) : (b.change c).Known c := by
  cases c with
  | ensure name => exact b.graph.exists_find?_ensure name
  | addEdge relation topic other => exact b.known_addEdge relation topic other
  | define name entries => exact Arrays.mem_names_define.mpr (.inl rfl)
  | enrol topic text responses patterns =>
    obtain ⟨id, hid⟩ := b.graph.exists_find?_ensure topic
    obtain ⟨trigger, htrigger⟩ := Graph.exists_findTrigger?_addTrigger
      (t := enrolled id text responses patterns)
      (hstored.congr (b.graph.sameTriggers_ensure topic)) (Graph.lt_size_of_find? hid)
    rw [change, enrol_of_find? hid]
    exact ⟨id, trigger, (Graph.evolves_addTrigger _ _).within.find? hid, htrigger⟩

theorem change_of_known {c : Change} (hlasting : c.Lasting) (h : b.Known c) : b.change c = b := by
  cases c with
  | ensure name =>
    obtain ⟨id, hid⟩ := h
    rw [change, ensureTopic, Graph.ensure_of_find? hid]
  | addEdge relation topic other =>
    obtain ⟨id, otherId, hid, hother, hedge⟩ := h
    exact addEdge_of_known hid hother hedge
  | define name entries => cases hlasting
  | enrol topic text responses patterns => cases hlasting

theorem enrol_enrol (hstored : b.graph.Stored) (topic text : String) (responses : List String)
    (patterns : Pattern × Option Pattern) :
    ((b.enrol topic text responses patterns).1.enrol topic text responses patterns).1 =
      (b.enrol topic text responses patterns).1 := by
  obtain ⟨id, hid⟩ := b.graph.exists_find?_ensure topic
  have hstored' := hstored.congr (b.graph.sameTriggers_ensure topic)
  have hid' := (Graph.evolves_addTrigger _ (enrolled id text responses patterns)).within.find? hid
  have hensure := Graph.ensure_of_find? hid'
  rw [enrol_of_find? hid, enrol_of_find? (hensure ▸ hid'), hensure,
    Graph.addTrigger_addTrigger hstored' (Graph.lt_size_of_find? hid)]

theorem change_change (hstored : b.graph.Stored) (c : Change) :
    (b.change c).change c = b.change c := by
  have hknown := known_change hstored c
  cases c with
  | ensure name => exact change_of_known trivial hknown
  | addEdge relation topic other => exact change_of_known trivial hknown
  | define name entries =>
    exact congrArg (fun arrays => ({ b with arrays } : Bot)) (b.arrays.define_define rfl ..)
  | enrol topic text responses patterns => exact enrol_enrol hstored topic text responses patterns

/-- A bot in which a trigger was registered again. -/
def replaced (b : Bot) (trigger : TriggerId) (t : Trigger) : Bot :=
  { b with graph := b.graph.replace trigger t }

/-- A change registers this trigger again. -/
def Replaces (b : Bot) (trigger : TriggerId) : Change → Prop
  | .enrol topic _ _ patterns => ∃ id, (b.graph.ensure topic).find? topic = some id ∧
      (b.graph.ensure topic).findTrigger? id (identityOf patterns) = some trigger
  | _ => False

theorem change_replaced {c : Change} {trigger : TriggerId} {t : Trigger}
    (htrigger : trigger < b.graph.triggers.size)
    (hidentity : (b.graph.trigger trigger).identity = t.identity) (hnot : ¬ b.Replaces trigger c) :
    (b.replaced trigger t).change c = (b.change c).replaced trigger t := by
  cases c with
  | ensure name => simp only [change, ensureTopic, replaced, Graph.ensure_replace]
  | addEdge relation topic other =>
    simp only [change, addEdge, replaced, Graph.ensure_replace, Graph.idOf_replace,
      Graph.addEdge_replace]
  | define name entries => rfl
  | enrol topic text responses patterns =>
    obtain ⟨id, hid⟩ := b.graph.exists_find?_ensure topic
    have hsame := b.graph.sameTriggers_ensure topic
    have hensure : (b.replaced trigger t).graph.ensure topic =
        (b.graph.ensure topic).replace trigger t := b.graph.ensure_replace trigger t topic
    have hid' : ((b.replaced trigger t).graph.ensure topic).find? topic = some id := by
      rw [hensure, Graph.find?_replace, hid]
    rw [change, change, enrol_of_find? hid, enrol_of_find? hid', hensure, Graph.addTrigger_replace]
    · rfl
    · rwa [hsame.triggers]
    · rwa [Graph.trigger, hsame.triggers]
    · exact fun h => hnot ⟨id, hid, h⟩

/-- The later definition of an array counts, and an array that is there keeps its place. -/
theorem change_define_of_known {name : String} {entries : List String}
    (h : b.Known (.define name entries)) (c : Change) :
    (b.change c).defineArray name entries = b.defineArray name entries ∨
      (b.change c).defineArray name entries = (b.defineArray name entries).change c := by
  cases c with
  | define other entries' =>
    by_cases hname : Text.lowercased other = Text.lowercased name
    · have harrays := b.arrays.define_define hname entries' entries
      exact .inl (congrArg (fun arrays => ({ b with arrays } : Bot)) harrays)
    · have harrays := Arrays.define_comm hname h entries' entries
      exact .inr (congrArg (fun arrays => ({ b with arrays } : Bot)) harrays)
  | _ => exact .inr rfl

/-- The later text of a trigger counts, and a trigger that is there keeps its number. -/
theorem change_enrol_of_known (hstored : b.graph.Stored) {topic text : String}
    {responses : List String} {patterns : Pattern × Option Pattern}
    (h : b.Known (.enrol topic text responses patterns)) (c : Change) :
    ((b.change c).enrol topic text responses patterns).1 =
        (b.enrol topic text responses patterns).1 ∨
      ((b.change c).enrol topic text responses patterns).1 =
        (b.enrol topic text responses patterns).1.change c := by
  obtain ⟨id, trigger, hid, htrigger⟩ := h
  have hkeeps := keeps_change hstored c
  have hhere : (b.enrol topic text responses patterns).1 =
      b.replaced trigger (enrolled id text responses patterns) := enrol_of_known hid htrigger
  have hlater : ((b.change c).enrol topic text responses patterns).1 =
      (b.change c).replaced trigger (enrolled id text responses patterns) :=
    enrol_of_known (hkeeps.within.find? hid) (hkeeps.found htrigger)
  rw [hhere, hlater]
  by_cases hreplaces : b.Replaces trigger c
  · cases c with
    | enrol topic' text' responses' patterns' =>
      obtain ⟨id', hid', htrigger'⟩ := hreplaces
      obtain ⟨hid', htrigger'⟩ := Graph.find?_of_findTrigger?_ensure hid' htrigger'
      have hgraph := b.graph.replace_replace trigger (enrolled id' text' responses' patterns')
        (enrolled id text responses patterns)
      rw [change, enrol_of_known hid' htrigger']
      exact .inl (congrArg (fun graph => ({ b with graph } : Bot)) hgraph)
    | _ => cases hreplaces
  · have hlt := hstored.lt_of_findTrigger? htrigger
    have hidentity := Graph.identity_of_findTrigger? htrigger
    exact .inr
      (change_replaced (t := enrolled id text responses patterns) hlt hidentity hreplaces).symm

/-- A change at what is known makes up for a change of the same thing before, and could as well have
been made before any other one. -/
theorem change_change_of_known (hstored : b.graph.Stored) {c' : Change} (h : b.Known c')
    (c : Change) : (b.change c).change c' = b.change c' ∨
      (b.change c).change c' = (b.change c').change c := by
  have hlater := (keeps_change hstored c).known h
  have hlasting (hc' : c'.Lasting) : (b.change c).change c' = (b.change c').change c := by
    rw [change_of_known hc' hlater, change_of_known hc' h]
  cases c' with
  | ensure name => exact .inr (hlasting trivial)
  | addEdge relation topic other => exact .inr (hlasting trivial)
  | define name entries => exact change_define_of_known h c
  | enrol topic text responses patterns => exact change_enrol_of_known hstored h c

theorem overwrites_change : Overwrites change (fun b => b.graph.Stored) Known where
  valid c h := stored_change h c
  known c h := known_change h c
  remains c h hknown := (keeps_change h c).known hknown
  repeats c h := change_change h c
  yields c h hknown := change_change_of_known h hknown c

end Change

/-- A script that was loaded into a bot can be loaded into it once more, with the same report and
without any effect. -/
theorem load_again (options : Options) (operations : List Operation) {source : String} {b : Bot}
    {report : LoadReport} (h : ((new options).run operations).load source = (b, .ok report)) :
    b.load source = (b, .ok report) := by
  have hstored : ((new options).run operations).graph.Stored :=
    kept_run Graph.kept_stored Graph.stored_empty options operations
  have hrules : b.scriptRules = ((new options).run operations).scriptRules := by
    rw [← scriptRules_load ((new options).run operations) source, h]
  cases hread : Script.read ((new options).run operations).scriptRules source with
  | error error =>
    rw [load_of_error hread] at h
    cases h
  | ok script =>
    rw [load_of_read hread] at h
    obtain ⟨rfl, hreport⟩ := Prod.mk.inj h
    rw [load_of_read (hrules ▸ hread), hreport]
    simp only [foldl_perform, overwrites_change.foldl_foldl hstored]

/-- The script registers one trigger twice and defines one array twice, each time otherwise, and a
bracket in it is not closed. -/
theorem load_again_overwritten :
    let b := (new .standard).run [.register "sea" "ahoy" ["aye"] none, .sort]
    let source := "! array a = x y\n> topic sea\n+ ahoy\n- one\n" ++
      "> topic sea\n+ ahoy\n- two\n+ (\n! array a = z"
    ∃ b' report, b.load source = (b', .ok report) ∧ report.triggers = 2 ∧
      report.rejected.length = 1 ∧ b'.arrays.get? "a" = some [["z"]] ∧
      (b'.graph.trigger 0).responses = ["two"] ∧ b'.load source = (b', .ok report) := by
  intro b source
  have hreport : (b.load source).2.toOption.any (fun report =>
      decide (report.triggers = 2 ∧ report.rejected.length = 1)) = true := by decide +kernel
  have harray : (b.load source).1.arrays.get? "a" = some [["z"]] := by decide +kernel
  have hresponses : ((b.load source).1.graph.trigger 0).responses = ["two"] := by decide +kernel
  cases h : (b.load source).2 with
  | error error => simp [h, Except.toOption] at hreport
  | ok report =>
    simp only [h, Except.toOption, Option.any_some, decide_eq_true_eq] at hreport
    have hload : b.load source = ((b.load source).1, .ok report) := Prod.ext rfl h
    exact ⟨_, report, hload, hreport.1, hreport.2, harray, hresponses, load_again _ _ hload⟩

end Bot
end Parley
