import Mathlib.Data.List.Basic
import Parley.Proofs.Bot.Identity
import Parley.Proofs.Bot.Numbers
import Parley.Proofs.Bot.Repetition

/-!
# Triggers are what was registered last

The registrations that a run makes, by itself or through scripts, are its history. A trigger is
known by the key of its topic and the texts of its two patterns, and triggers are numbered in the
order in which these were registered first. What a trigger holds is what was registered last, except
that its condition stays the first one; as the text of a condition stands for its tokens, no message
can tell the two apart.
-/
namespace Parley

/-- The key of a topic and the texts of two patterns. -/
abbrev Subject := String × String × Option String

/-- A registration whose patterns can be read. -/
structure Registration where
  topic : String
  text : String
  responses : List String
  previous : Option String
  patterns : Pattern × Option Pattern
  reads : Bot.readPatterns text previous = .ok patterns

namespace Registration

/-- What the trigger is known by. -/
def subject (r : Registration) : Subject := (Text.key r.topic, Bot.identityOf r.patterns)

/-- The registration of a trigger, if its patterns can be read. -/
def read? (topic text : String) (responses : List String) (previous : Option String) :
    Option Registration :=
  match h : Bot.readPatterns text previous with
  | .ok patterns => some ⟨topic, text, responses, previous, patterns, h⟩
  | .error _ => none

/-- The trigger that a topic is given. -/
def trigger (r : Registration) (topic : TopicId) : Trigger :=
  Bot.enrolled topic r.text r.responses r.patterns

/-- The registrations of one subject. -/
def about (subject : Subject) (history : List Registration) : List Registration :=
  history.filter fun r => r.subject = subject

theorem read?_of_error {text : String} {previous : Option String} {error : Error}
    (h : Bot.readPatterns text previous = .error error) (topic : String) (responses : List String) :
    read? topic text responses previous = none := by
  unfold read?
  split
  · rename_i hreads
    rw [h] at hreads
    cases hreads
  · rfl

theorem read?_eq_some (r : Registration) :
    read? r.topic r.text r.responses r.previous = some r := by
  unfold read?
  split
  · rename_i patterns hreads
    have hpatterns : patterns = r.patterns := Except.ok.inj (hreads.symm.trans r.reads)
    subst hpatterns
    rfl
  · rename_i error hreads
    rw [r.reads] at hreads
    cases hreads

theorem about_append_self (r : Registration) (history : List Registration) :
    about r.subject (history ++ [r]) = about r.subject history ++ [r] := by
  simp [about]

theorem about_append_of_ne {r : Registration} {subject : Subject} (h : subject ≠ r.subject)
    (history : List Registration) : about subject (history ++ [r]) = about subject history := by
  simp [about, Ne.symm h]

theorem mem_about {r : Registration} {subject : Subject} {history : List Registration} :
    r ∈ about subject history ↔ r ∈ history ∧ r.subject = subject := by
  simp [about]

/-- Patterns that were read make a trigger that was compiled. -/
theorem compiled (r : Registration) (topic : TopicId) : (r.trigger topic).Compiled := by
  obtain ⟨hpattern, hprevious⟩ := Bot.readPatterns_eq_ok_iff.mp r.reads
  exact ⟨Bot.readPattern_eq_ok_iff.mp hpattern,
    fun _ hsome => Bot.exists_read_of_readPattern? hprevious hsome⟩

end Registration

/-- The registrations that a directive makes. -/
def Script.Directive.registrations : Script.Directive → List Registration
  | .array _ _ | .topic _ _ _ => []
  | .trigger t => (Registration.read? t.topic t.pattern t.responses t.previous).toList

/-- The registrations that an operation makes; scripts are read by these rules. -/
def Operation.registrations (rules : Script.Rules) : Operation → List Registration
  | .register topic text responses previous =>
    (Registration.read? topic text responses previous).toList
  | .load source =>
    match Script.read rules source with
    | .ok script => script.directives.flatMap Script.Directive.registrations
    | .error _ => []
  | .addEdge _ _ _ | .defineArray _ _ | .sort => []

/-- The registrations of a run, in their order. -/
def Bot.history (b : Bot) (operations : List Operation) : List Registration :=
  operations.flatMap (Operation.registrations b.scriptRules)

/-- The condition of a trigger is that of the first of these registrations, and all else is that of
the last one. -/
structure Trigger.Reflects (t : Trigger) (history : List Registration) : Prop where
  last : history.getLast?.map (fun r => (r.text, r.patterns.1, r.responses)) =
    some (t.raw, t.pattern, t.responses)
  first : history.head?.map (fun r => r.patterns.2) = some t.previous

namespace Graph

/-- What a trigger is known by. -/
def subject (g : Graph) (id : TriggerId) : Subject :=
  ((g.topic (g.trigger id).topic).name, (g.trigger id).identity)

/-- The triggers of a graph are those of a history of registrations. -/
structure Registered (history : List Registration) (g : Graph) : Prop extends WellFormed g where
  subjects : (List.range g.triggers.size).map g.subject =
    (history.map Registration.subject).eraseDups
  reflects : ∀ id < g.triggers.size,
    (g.trigger id).Reflects (Registration.about (g.subject id) history)

theorem registered_empty : Graph.empty.Registered [] :=
  ⟨wellFormed_empty, rfl, fun _ hid => absurd hid (Nat.not_lt_zero _)⟩

section Subjects
variable {g : Graph} {history : List Registration}

/-- No two triggers are known by the same. -/
theorem WellFormed.subject_inj (h : g.WellFormed) {id other : TriggerId}
    (hid : id < g.triggers.size) (hother : other < g.triggers.size)
    (heq : g.subject id = g.subject other) : id = other := by
  obtain ⟨hname, hidentity⟩ := Prod.mk.inj heq
  have htopic := h.unique _ (h.topic_lt id hid) _ (h.topic_lt other hother) hname
  exact h.sole id hid other hother htopic hidentity

theorem WellFormed.findTrigger?_eq_some_iff (h : g.WellFormed) {topic : TopicId}
    (htopic : topic < g.topics.size) {identity : String × Option String} {id : TriggerId} :
    g.findTrigger? topic identity = some id ↔
      id < g.triggers.size ∧ g.subject id = ((g.topic topic).name, identity) := by
  constructor
  · intro hfound
    obtain ⟨hid, howner⟩ := h.mem_iff.mp (List.mem_of_find?_eq_some hfound)
    refine ⟨hid, ?_⟩
    rw [subject, howner, identity_of_findTrigger? hfound]
  · intro hsubject
    obtain ⟨hid, hsubject⟩ := hsubject
    obtain ⟨hname, hidentity⟩ := Prod.mk.inj hsubject
    have howner := h.unique _ (h.topic_lt id hid) topic htopic hname
    cases hfound : g.findTrigger? topic identity with
    | some found =>
      obtain ⟨hlt, howner'⟩ := h.mem_iff.mp (List.mem_of_find?_eq_some hfound)
      have hsame := (identity_of_findTrigger? hfound).trans hidentity.symm
      rw [h.sole found hlt id hid (howner'.trans howner.symm) hsame]
    | none =>
      have hnone := List.find?_eq_none.mp hfound id (h.mem_iff.mpr ⟨hid, howner⟩)
      simp [hidentity] at hnone

theorem Registered.mem_subjects_iff (h : g.Registered history) {subject : Subject} :
    subject ∈ history.map Registration.subject ↔
      ∃ id < g.triggers.size, g.subject id = subject := by
  rw [← List.mem_eraseDups, ← h.subjects]
  simp

theorem Registered.idxOf_subject (h : g.Registered history) {id : TriggerId}
    (hid : id < g.triggers.size) :
    (history.map Registration.subject).eraseDups.idxOf (g.subject id) = id := by
  have hnodup : ((List.range g.triggers.size).map g.subject).Nodup := by
    refine List.Nodup.map_on (fun a ha b hb => ?_) List.nodup_range
    exact h.subject_inj (List.mem_range.mp ha) (List.mem_range.mp hb)
  have hlength : id < ((List.range g.triggers.size).map g.subject).length := by simpa using hid
  have hidx := hnodup.idxOf_getElem id hlength
  simp only [List.getElem_map, List.getElem_range] at hidx
  rw [← h.subjects]
  exact hidx

/-- What is no trigger's comes behind all of them. -/
theorem Registered.idxOf_new (h : g.Registered history) {subject : Subject}
    (hnew : subject ∉ history.map Registration.subject) :
    (history.map Registration.subject).eraseDups.idxOf subject = g.triggers.size := by
  rw [List.idxOf_of_notMem (mt List.mem_eraseDups.mp hnew), ← h.subjects]
  simp

end Subjects

theorem subject_congr {g g' : Graph} (hfiled : g.Filed) (hwithin : g.Within g')
    (hsame : g.SameTriggers g') {id : TriggerId} (hid : id < g.triggers.size) :
    g'.subject id = g.subject id := by
  rw [subject, subject, hsame.trigger_eq, hwithin.name _ (hfiled.topic_lt id hid)]

theorem Registered.congr {g g' : Graph} {history : List Registration} (h : g.Registered history)
    (hformed : g'.WellFormed) (hwithin : g.Within g') (hsame : g.SameTriggers g') :
    g'.Registered history := by
  have hsubject (id : TriggerId) (hid : id < g.triggers.size) : g'.subject id = g.subject id :=
    subject_congr h.toFiled hwithin hsame hid
  refine ⟨hformed, ?_, fun id hid => ?_⟩
  · rw [← h.subjects, hsame.triggers]
    exact List.map_congr_left fun id hid => hsubject id (List.mem_range.mp hid)
  · rw [hsame.triggers] at hid
    rw [hsubject id hid, hsame.trigger_eq]
    exact h.reflects id hid

theorem eraseDups_append_of_mem {subjects : List Subject} {subject : Subject}
    (h : subject ∈ subjects) : (subjects ++ [subject]).eraseDups = subjects.eraseDups := by
  rw [List.eraseDups_append, List.removeAll, List.filter_singleton]
  simp [h]

theorem eraseDups_append_of_not_mem {subjects : List Subject} {subject : Subject}
    (h : subject ∉ subjects) :
    (subjects ++ [subject]).eraseDups = subjects.eraseDups ++ [subject] := by
  rw [List.eraseDups_append, List.removeAll, List.filter_singleton]
  simp [h, List.eraseDups_cons]

section Register
variable {g : Graph} {history : List Registration} {topic : TopicId} {r : Registration}

/-- Registered again, a trigger reflects one registration more. -/
theorem Registered.replace (h : g.Registered history)
    (hname : (g.topic topic).name = Text.key r.topic) (htopic : topic < g.topics.size)
    {id : TriggerId}
    (hfound : g.findTrigger? topic (r.trigger topic).identity = some id) :
    (g.replace id (r.trigger topic)).Registered (history ++ [r]) := by
  obtain ⟨hid, hsubject⟩ := (h.findTrigger?_eq_some_iff htopic).mp hfound
  replace hsubject : g.subject id = r.subject := by
    rw [hsubject, hname]
    rfl
  have hidentity := identity_of_findTrigger? hfound
  have hsame (other : TriggerId) :
      (g.replace id (r.trigger topic)).subject other = g.subject other := by
    rw [subject, subject, topic_replace, topic_trigger_replace g hid,
      identity_replace hid hidentity]
  have hformed : (g.replace id (r.trigger topic)).WellFormed := by
    rw [← addTrigger_of_some hfound]
    exact kept_wellFormed.addTrigger g _ (r.compiled topic) htopic h.toWellFormed
  refine ⟨hformed, ?_, fun other hother => ?_⟩
  · rw [size_triggers_replace, List.map_congr_left fun other _ => hsame other, h.subjects,
      List.map_append]
    exact (eraseDups_append_of_mem (h.mem_subjects_iff.mpr ⟨id, hid, hsubject⟩)).symm
  · rw [size_triggers_replace] at hother
    rw [hsame]
    by_cases heq : other = id
    · subst heq
      have hreflects := h.reflects other hid
      rw [hsubject] at hreflects
      rw [trigger_replace_self g other _ hid, hsubject, Registration.about_append_self]
      constructor
      · rw [List.getLast?_concat]
        rfl
      · rw [List.head?_append, Option.map_or, hreflects.first, Option.some_or]
        rfl
    · have hne : g.subject other ≠ r.subject := by
        intro hsubject'
        exact heq (h.subject_inj hother hid (hsubject'.trans hsubject.symm))
      rw [trigger_replace_of_ne g id _ heq, Registration.about_append_of_ne hne]
      exact h.reflects other hother

theorem Registered.not_mem_subjects (h : g.Registered history)
    (hname : (g.topic topic).name = Text.key r.topic) (htopic : topic < g.topics.size)
    (hnew : g.findTrigger? topic (r.trigger topic).identity = none) :
    r.subject ∉ history.map Registration.subject := by
  intro hmem
  obtain ⟨id, hid, hsubject⟩ := h.mem_subjects_iff.mp hmem
  have hsubject' : g.subject id = ((g.topic topic).name, (r.trigger topic).identity) := by
    rw [hsubject, hname]
    rfl
  rw [(h.findTrigger?_eq_some_iff htopic).mpr ⟨hid, hsubject'⟩] at hnew
  cases hnew

/-- A trigger that is new gets the next number. -/
theorem Registered.push (h : g.Registered history) (hname : (g.topic topic).name = Text.key r.topic)
    (htopic : topic < g.topics.size)
    (hnew : g.findTrigger? topic (r.trigger topic).identity = none) :
    (g.addTrigger (r.trigger topic)).1.Registered (history ++ [r]) := by
  have hnot := h.not_mem_subjects hname htopic hnew
  have hwithin := (g.evolves_addTrigger (r.trigger topic)).within
  have htrigger (id : TriggerId) := trigger_addTrigger_of_none hnew id
  have hsize : (g.addTrigger (r.trigger topic)).1.triggers.size = g.triggers.size + 1 := by
    rw [triggers_addTrigger_of_none hnew, Array.size_push]
  have hold (id : TriggerId) (hid : id < g.triggers.size) :
      (g.addTrigger (r.trigger topic)).1.subject id = g.subject id := by
    rw [subject, subject, htrigger, if_neg (Nat.ne_of_lt hid), hwithin.name _ (h.topic_lt id hid)]
  have hlast : (g.addTrigger (r.trigger topic)).1.subject g.triggers.size = r.subject := by
    have hname' := (hwithin.name topic htopic).trans hname
    rw [subject, htrigger, if_pos rfl]
    exact congrArg (·, (r.trigger topic).identity) hname'
  refine ⟨kept_wellFormed.addTrigger g _ (r.compiled topic) htopic h.toWellFormed, ?_,
    fun id hid => ?_⟩
  · rw [hsize, List.range_succ, List.map_append,
      List.map_congr_left fun id hid => hold id (List.mem_range.mp hid), h.subjects,
      List.map_append, List.map_singleton, List.map_singleton, hlast]
    exact (eraseDups_append_of_not_mem hnot).symm
  · rw [hsize] at hid
    obtain hlt | heq := Nat.lt_succ_iff_lt_or_eq.mp hid
    · have hne : g.subject id ≠ r.subject := by
        intro hsubject
        exact hnot (h.mem_subjects_iff.mpr ⟨id, hlt, hsubject⟩)
      rw [hold id hlt, htrigger, if_neg (Nat.ne_of_lt hlt), Registration.about_append_of_ne hne]
      exact h.reflects id hlt
    · have hnone : Registration.about r.subject history = [] := by
        rw [List.eq_nil_iff_forall_not_mem]
        intro other hother
        obtain ⟨hmem, hsubject⟩ := Registration.mem_about.mp hother
        exact hnot (hsubject ▸ List.mem_map_of_mem hmem)
      rw [heq, hlast, htrigger, if_pos rfl, Registration.about_append_self, hnone]
      exact ⟨rfl, rfl⟩

/-- A registration adds to the history, and the trigger has the number of its subject. -/
theorem Registered.addTrigger (h : g.Registered history)
    (hname : (g.topic topic).name = Text.key r.topic) (htopic : topic < g.topics.size) :
    (g.addTrigger (r.trigger topic)).1.Registered (history ++ [r]) ∧
      (g.addTrigger (r.trigger topic)).2 =
        (history.map Registration.subject).eraseDups.idxOf r.subject := by
  cases hfound : g.findTrigger? topic (r.trigger topic).identity with
  | some id =>
    obtain ⟨hid, hsubject⟩ := (h.findTrigger?_eq_some_iff htopic).mp hfound
    have hidx := h.idxOf_subject hid
    rw [hsubject, hname] at hidx
    rw [addTrigger_of_some hfound, snd_addTrigger_of_some hfound]
    exact ⟨h.replace hname htopic hfound, hidx.symm⟩
  | none =>
    rw [snd_addTrigger_of_none hfound, h.idxOf_new (h.not_mem_subjects hname htopic hfound)]
    exact ⟨h.push hname htopic hfound, rfl⟩

end Register
end Graph

namespace Bot

/-- A bot after a registration, and the number of the trigger. -/
def record (b : Bot) (r : Registration) : Bot × TriggerId :=
  b.enrol r.topic r.text r.responses r.patterns

theorem register_eq_record (b : Bot) (r : Registration) :
    b.register r.topic r.text r.responses r.previous = ((b.record r).1, .ok (b.record r).2) :=
  register_of_read r.reads

section Runs
variable {b : Bot} {history : List Registration}

theorem registered_ensureTopic (h : b.graph.Registered history) (name : String) :
    (b.ensureTopic name).graph.Registered history :=
  h.congr (Graph.kept_wellFormed.ensure b.graph name h.toWellFormed)
    (b.graph.evolves_ensure name).within (b.graph.sameTriggers_ensure name)

theorem registered_addEdge (h : b.graph.Registered history) (relation : Relation)
    (topic other : String) : (b.addEdge relation topic other).graph.Registered history :=
  h.congr (kept_addEdge Graph.kept_wellFormed relation topic other h.toWellFormed)
    (b.evolves_addEdge relation topic other).within (b.sameTriggers_addEdge relation topic other)

theorem registered_record (h : b.graph.Registered history) (r : Registration) :
    (b.record r).1.graph.Registered (history ++ [r]) ∧
      (b.record r).2 = (history.map Registration.subject).eraseDups.idxOf r.subject := by
  have hensured := registered_ensureTopic h r.topic
  obtain ⟨topic, hfind⟩ := b.graph.exists_find?_ensure r.topic
  obtain ⟨htopic, hname⟩ := hensured.find?_eq_some_iff.mp hfind
  have hadded := hensured.addTrigger hname htopic
  rw [← Graph.idOf_eq hfind] at hadded
  exact hadded

theorem registered_register (h : b.graph.Registered history) (topic text : String)
    (responses : List String) (previous : Option String) :
    (b.step (.register topic text responses previous)).graph.Registered
      (history ++ (Registration.read? topic text responses previous).toList) := by
  cases hreads : readPatterns text previous with
  | ok patterns =>
    have hregister := b.register_eq_record ⟨topic, text, responses, previous, patterns, hreads⟩
    have hread := Registration.read?_eq_some ⟨topic, text, responses, previous, patterns, hreads⟩
    rw [hread, step, hregister]
    exact (registered_record h _).1
  | error error =>
    rw [Registration.read?_of_error hreads, step, register_of_error hreads]
    simpa using h

theorem registered_perform (h : b.graph.Registered history) (directive : Script.Directive) :
    (b.perform directive).graph.Registered (history ++ directive.registrations) := by
  cases directive with
  | array name entries =>
    rw [Script.Directive.registrations, List.append_nil]
    exact h
  | topic name includes inherits =>
    rw [Script.Directive.registrations, List.append_nil]
    refine kept_foldl (kept_foldl (registered_ensureTopic h name) ?_) ?_
    · exact fun b other hb => registered_addEdge hb .includes name other
    · exact fun b other hb => registered_addEdge hb .inherits name other
  | trigger t => exact registered_register h t.topic t.pattern t.responses t.previous

theorem registered_foldl_perform (h : b.graph.Registered history)
    (directives : List Script.Directive) : (directives.foldl perform b).graph.Registered
      (history ++ directives.flatMap Script.Directive.registrations) := by
  induction directives generalizing b history with
  | nil => simpa using h
  | cons directive directives ih =>
    rw [List.flatMap_cons, ← List.append_assoc]
    exact ih (registered_perform h directive)

/-- One operation adds its registrations to the history. -/
theorem registered_step (h : b.graph.Registered history) (operation : Operation) :
    (b.step operation).graph.Registered
      (history ++ operation.registrations b.scriptRules) := by
  cases operation with
  | register topic text responses previous =>
    exact registered_register h topic text responses previous
  | addEdge relation topic other =>
    rw [Operation.registrations, List.append_nil]
    exact registered_addEdge h relation topic other
  | defineArray name entries =>
    rw [Operation.registrations, List.append_nil]
    exact h
  | load source =>
    rw [step, Operation.registrations]
    cases hread : Script.read b.scriptRules source with
    | ok script =>
      rw [load_of_read hread]
      exact registered_foldl_perform h script.directives
    | error error =>
      rw [load_of_error hread, List.append_nil]
      exact h
  | sort =>
    rw [Operation.registrations, List.append_nil]
    exact h.congr (Graph.kept_wellFormed.sort b.graph b.options.limit h.toWellFormed)
      (b.graph.within_sort b.options.limit) (b.graph.sameTriggers_sort b.options.limit)

end Runs

theorem options_run (b : Bot) (operations : List Operation) :
    (b.run operations).options = b.options :=
  List.foldlRecOn (motive := fun b' : Bot => b'.options = b.options) operations step rfl
    fun b' h operation _ => (options_step b' operation).trans h

theorem scriptRules_run (b : Bot) (operations : List Operation) :
    (b.run operations).scriptRules = b.scriptRules := by
  rw [scriptRules, scriptRules, options_run]

/-- A run adds its registrations to the history. -/
theorem registered_run {b : Bot} {history : List Registration} (h : b.graph.Registered history)
    (operations : List Operation) :
    (b.run operations).graph.Registered (history ++ b.history operations) := by
  induction operations using List.reverseRecOn with
  | nil => simpa [Bot.history, run] using h
  | append_singleton operations operation ih =>
    have hstep := registered_step ih operation
    rw [scriptRules_run, List.append_assoc] at hstep
    rw [run_append_singleton, Bot.history, List.flatMap_append, List.flatMap_singleton]
    exact hstep

/-- A pattern that cannot be read lets a registration fail. -/
theorem exists_fault_of_malformed {text : String} {previous : Option String}
    (h : (∃ cause, Pattern.read text = .error cause) ∨
      ∃ condition cause, previous = some condition ∧ Pattern.read condition = .error cause) :
    ∃ error, fault? text previous = some error := by
  cases hreads : readPatterns text previous with
  | error error => exact ⟨error, by rw [fault?, hreads]⟩
  | ok patterns =>
    obtain ⟨hpattern, hprevious⟩ := readPatterns_eq_ok_iff.mp hreads
    obtain ⟨cause, hcause⟩ | ⟨condition, cause, hcondition, hcause⟩ := h
    · rw [readPattern_eq_ok_iff, hcause] at hpattern
      cases hpattern
    · rw [hcondition, readPattern?, readPattern, hcause] at hprevious
      cases hprevious

theorem map_tokens_eq_of_rel {condition condition' : Option Pattern}
    (h : Option.Rel Pattern.Alike condition condition') :
    condition.map Pattern.tokens = condition'.map Pattern.tokens := by
  cases h with
  | some halike => exact congrArg some halike.tokens
  | none => rfl

/-- What a trigger holds is what was registered for its subject last, and its condition has the
tokens of the last one. -/
theorem exists_last_of_registered {g : Graph} {history : List Registration}
    (h : g.Registered history) (hreadable : g.Readable) {id : TriggerId}
    (hid : id < g.triggers.size) : ∃ r,
      (Registration.about (g.subject id) history).getLast? = some r ∧
      (g.trigger id).raw = r.text ∧ (g.trigger id).pattern = r.patterns.1 ∧
      (g.trigger id).responses = r.responses ∧
      (g.trigger id).previous.map Pattern.tokens = r.patterns.2.map Pattern.tokens := by
  obtain ⟨r, hlast, hholds⟩ := Option.map_eq_some_iff.mp (h.reflects id hid).last
  obtain ⟨hraw, hpattern, hresponses⟩ : r.text = (g.trigger id).raw ∧
      r.patterns.1 = (g.trigger id).pattern ∧ r.responses = (g.trigger id).responses := by
    simpa using hholds
  refine ⟨r, hlast, hraw.symm, hpattern.symm, hresponses.symm, ?_⟩
  have hsubject := (Registration.mem_about.mp (List.mem_of_getLast? hlast)).2
  have htext : (r.trigger 0).previous.map Pattern.text =
      (g.trigger id).previous.map Pattern.text :=
    congrArg (fun subject : Subject => subject.2.2) hsubject
  exact map_tokens_eq_of_rel (Graph.alike_of_map_text_eq
    (hreadable.compiled _ (Graph.trigger_mem hid)) (r.compiled 0) htext.symm)

/-- The triggers of a topic are those that are known by its name. -/
theorem map_subject_triggers {g : Graph} (h : g.WellFormed) {topic : TopicId}
    (htopic : topic < g.topics.size) : (g.topic topic).triggers.map g.subject =
      ((List.range g.triggers.size).map g.subject).filter
        fun subject => subject.1 = (g.topic topic).name := by
  rw [h.owned, List.filter_map]
  refine congrArg (List.map g.subject) (List.filter_congr fun id hid => ?_)
  have howner := h.topic_lt id (List.mem_range.mp hid)
  have hiff : (g.trigger id).topic = topic ↔
      (g.topic (g.trigger id).topic).name = (g.topic topic).name :=
    ⟨fun heq => by rw [heq], h.unique _ howner topic htopic⟩
  exact decide_eq_decide.mpr hiff

/-- After any run of operations the triggers are numbered as their subjects were registered first,
topics list theirs in that order, and each trigger holds the text, the pattern and the responses of
the last registration of its subject, and a condition of the same tokens. A further registration
returns the number of its subject; if one of its patterns cannot be read, it changes nothing. -/
theorem triggers_are_last_registered (options : Options) (operations : List Operation) :
    let b := (new options).run operations
    let g := b.graph
    let history := (new options).history operations
    let subjects := (history.map Registration.subject).eraseDups
    (List.range g.triggers.size).map g.subject = subjects ∧
    (∀ topic < g.topics.size, (g.topic topic).triggers.map g.subject =
      subjects.filter fun subject => subject.1 = (g.topic topic).name) ∧
    (∀ r ∈ history, ∃ topic, g.find? r.topic = some topic) ∧
    (∀ id < g.triggers.size, ∃ r,
      (Registration.about (g.subject id) history).getLast? = some r ∧
      (g.trigger id).raw = r.text ∧ (g.trigger id).pattern = r.patterns.1 ∧
      (g.trigger id).responses = r.responses ∧
      (g.trigger id).previous.map Pattern.tokens = r.patterns.2.map Pattern.tokens) ∧
    (∀ r : Registration, (b.register r.topic r.text r.responses r.previous).2 =
      .ok (subjects.idxOf r.subject)) ∧
    (∀ topic text responses previous, ((∃ cause, Pattern.read text = .error cause) ∨
        ∃ condition cause, previous = some condition ∧ Pattern.read condition = .error cause) →
      ∃ error, b.register topic text responses previous = (b, .error error)) := by
  intro b g history subjects
  have hregistered : g.Registered history := by
    have hrun := registered_run (b := new options) Graph.registered_empty operations
    exact hrun
  have hreadable := kept_run Graph.kept_readable Graph.readable_empty options operations
  refine ⟨hregistered.subjects, fun topic htopic => ?_, fun r hr => ?_,
    fun id => exists_last_of_registered hregistered hreadable, fun r => ?_,
    fun topic text responses previous hmalformed => ?_⟩
  · rw [map_subject_triggers hregistered.toWellFormed htopic, hregistered.subjects]
  · have hmem : r.subject ∈ history.map Registration.subject := List.mem_map_of_mem hr
    obtain ⟨id, hid, hsubject⟩ := hregistered.mem_subjects_iff.mp hmem
    have hname : (g.topic (g.trigger id).topic).name = Text.key r.topic :=
      congrArg Prod.fst hsubject
    exact Graph.exists_find?_of_name (hregistered.topic_lt id hid) hname
  · rw [b.register_eq_record r, (registered_record hregistered r).2]
  · obtain ⟨error, hfault⟩ := exists_fault_of_malformed hmalformed
    exact ⟨error, register_of_fault hfault⟩

end Bot
end Parley
