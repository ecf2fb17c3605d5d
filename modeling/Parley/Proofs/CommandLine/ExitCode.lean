import Parley.CommandLine.Run
import Parley.Proofs.Bot.Topics

/-!
# Exit codes

A run is decided by its arguments, by the message, by the first script that does not load, and by
whether the scripts create the topic in which the message is to be matched. What the scripts hold
beyond that, and whether anything matches, makes no difference to the exit code. That a topic is not
sorted never ends a run, because all topics are sorted once the scripts are loaded.
-/
namespace Parley.CommandLine
open Script Text Unicode

/-- How the scripts of a run are read. -/
def rules : Rules := (Bot.new .standard).scriptRules

section
variable (read : Reading)

/-- A path leads to a text that is read as a script. -/
def Holds (path : String) (script : Parsed) : Prop :=
  ∃ source, read path = .ok source ∧ Script.read rules source = .ok script

def Loads (path : String) : Prop := ∃ script, Holds read path script

/-- A path leads to no text. -/
def Unread (path : String) : Prop := ∃ reason, read path = .error reason

/-- A path leads to a script that defines a version that is refused. -/
def Barred (path : String) : Prop :=
  ∃ source, read path = .ok source ∧ Outdates rules.supported source

/-- The first of some paths that does not load. -/
def FirstFailing (paths : List String) (path : String) : Prop :=
  ∃ front back, paths = front ++ path :: back ∧ (∀ other ∈ front, Loads read other) ∧
    ¬ Loads read path

/-- A script behind one of some paths names a topic, by whatever name with its key. -/
def Creates (paths : List String) (topic : String) : Prop :=
  ∃ path ∈ paths, ∃ script, Holds read path script ∧ key topic ∈ script.topics.map key

end

section
variable {read : Reading} {path : String}

theorem Holds.unique {first second : Parsed} (hfirst : Holds read path first)
    (hsecond : Holds read path second) : first = second := by
  obtain ⟨source, hsource, hread⟩ := hfirst
  obtain ⟨source', hsource', hread'⟩ := hsecond
  cases hsource.symm.trans hsource'
  exact Except.ok.inj (hread.symm.trans hread')

theorem not_loads_iff : ¬ Loads read path ↔ Unread read path ∨ Barred read path := by
  cases hread : read path with
  | error reason => simp [Loads, Holds, Unread, Barred, hread]
  | ok source =>
    have hbarred := exists_read_eq_error_iff rules source
    cases hscript : Script.read rules source with
    | error error => simp [Loads, Holds, Unread, Barred, hread, hscript, ← hbarred]
    | ok script => simp [Loads, Holds, Unread, Barred, hread, hscript, ← hbarred]

end

section
variable {read : Reading} {paths : List String} {path : String}

theorem FirstFailing.not_loads (h : FirstFailing read paths path) : ¬ Loads read path := by
  obtain ⟨_, _, _, _, hpath⟩ := h
  exact hpath

theorem not_all_load_iff : (¬ ∀ path ∈ paths, Loads read path) ↔
    ∃ path, FirstFailing read paths path := by
  constructor
  · intro h
    induction paths with
    | nil => simp at h
    | cons first rest ih =>
      by_cases hfirst : Loads read first
      · obtain ⟨path, front, back, rfl, hfront, hpath⟩ :=
          ih fun hrest => h (List.forall_mem_cons.mpr ⟨hfirst, hrest⟩)
        exact ⟨path, first :: front, back, rfl, List.forall_mem_cons.mpr ⟨hfirst, hfront⟩, hpath⟩
      · exact ⟨first, [], rest, rfl, by simp, hfirst⟩
  · rintro ⟨path, front, back, rfl, _, hpath⟩ hall
    exact hpath (hall path (by simp))

theorem creates_cons {script : Parsed} (h : Holds read path script) (topic : String) :
    Creates read (path :: paths) topic ↔
      key topic ∈ script.topics.map key ∨ Creates read paths topic := by
  have hhere : (∃ other, Holds read path other ∧ key topic ∈ other.topics.map key) ↔
      key topic ∈ script.topics.map key := by
    constructor
    · rintro ⟨other, hother, htopic⟩
      rwa [h.unique hother]
    · exact fun htopic => ⟨script, h, htopic⟩
  rw [Creates, List.exists_mem_cons_iff, hhere, Creates]

end

section
variable {read : Reading} {paths : List String} {path : String} {b : Bot}

/-- A script that holds is loaded, and the others are loaded after it. -/
theorem loadScripts_cons (hoptions : b.options = .standard) {script : Parsed}
    (h : Holds read path script) (rest : List String) : ∃ b' report, b'.options = .standard ∧
      (∀ topic, b'.graph.Knows topic ↔
        b.graph.Knows topic ∨ key topic ∈ script.topics.map key) ∧
      loadScripts read (path :: rest) b =
        (loadScripts read rest b').map fun loaded => (loaded.1, (path, report) :: loaded.2) := by
  obtain ⟨source, hsource, hscript⟩ := h
  have hrules : b.scriptRules = rules := by rw [Bot.scriptRules, hoptions, rules]; rfl
  rw [← hrules] at hscript
  have hload := Bot.load_of_read hscript
  refine ⟨(b.load source).1, script.report, (b.load_spec source).2.trans hoptions,
    Bot.knows_load hscript, ?_⟩
  rw [hload]
  simp only [loadScripts, hsource, hload]
  cases loadScripts read rest (script.directives.foldl Bot.perform b) <;> rfl

theorem loadScripts_of_all_load (hoptions : b.options = .standard)
    (h : ∀ path ∈ paths, Loads read path) : ∃ b' reports,
      loadScripts read paths b = .ok (b', reports) ∧
        ∀ topic, b'.graph.Knows topic ↔ b.graph.Knows topic ∨ Creates read paths topic := by
  induction paths generalizing b with
  | nil => exact ⟨b, [], rfl, fun topic => by simp [Creates]⟩
  | cons path rest ih =>
    obtain ⟨⟨script, hscript⟩, hrest⟩ := List.forall_mem_cons.mp h
    obtain ⟨b₁, report, hoptions₁, hknows₁, hload₁⟩ := loadScripts_cons hoptions hscript rest
    obtain ⟨b', reports, hload, hknows⟩ := ih hoptions₁ hrest
    refine ⟨b', (path, report) :: reports, by rw [hload₁, hload]; rfl, fun topic => ?_⟩
    rw [hknows, hknows₁, creates_cons hscript, or_assoc]

/-- The scripts before the first that does not load make no difference to the failure. -/
theorem loadScripts_append (hoptions : b.options = .standard) {front : List String}
    (hfront : ∀ path ∈ front, Loads read path) (back : List String) :
    ∃ b', b'.options = .standard ∧ ∀ failure, loadScripts read back b' = .error failure →
      loadScripts read (front ++ back) b = .error failure := by
  induction front generalizing b with
  | nil => exact ⟨b, hoptions, fun _ h => h⟩
  | cons path front ih =>
    obtain ⟨⟨script, hscript⟩, hrest⟩ := List.forall_mem_cons.mp hfront
    obtain ⟨b₁, report, hoptions₁, _, hload₁⟩ :=
      loadScripts_cons hoptions hscript (front ++ back)
    obtain ⟨b', hoptions', hfailure⟩ := ih hoptions₁ hrest
    refine ⟨b', hoptions', fun failure h => ?_⟩
    rw [List.cons_append, hload₁, hfailure failure h]
    rfl

theorem loadScripts_of_unread (hoptions : b.options = .standard)
    (h : FirstFailing read paths path) (hpath : Unread read path) :
    ∃ reason, loadScripts read paths b = .error (.unreadable path reason) := by
  obtain ⟨front, back, rfl, hfront, _⟩ := h
  obtain ⟨reason, hreason⟩ := hpath
  obtain ⟨b', _, hfailure⟩ := loadScripts_append hoptions hfront (path :: back)
  exact ⟨reason, hfailure _ (by rw [loadScripts, hreason])⟩

theorem loadScripts_of_barred (hoptions : b.options = .standard)
    (h : FirstFailing read paths path) (hpath : Barred read path) :
    ∃ error, loadScripts read paths b = .error (.rejected path error) ∧
      ∀ topic, error ≠ .unsorted topic := by
  obtain ⟨front, back, rfl, hfront, _⟩ := h
  obtain ⟨source, hsource, hrefused⟩ := hpath
  obtain ⟨b', hoptions', hfailure⟩ := loadScripts_append hoptions hfront (path :: back)
  have hgate : ∃ error, (b'.load source).2 = .error error := by
    rw [exists_congr fun error => Bot.load_eq_error_iff, exists_gate_versions_iff, hoptions']
    exact hrefused
  obtain ⟨error, herror⟩ := hgate
  have hload : b'.load source = (b', .error error) :=
    Prod.ext (Bot.fst_load_of_error herror) herror
  obtain ⟨_, value, _, _, _, hvalue⟩ := gate_eq_error_iff.mp (Bot.load_eq_error_iff.mp herror)
  refine ⟨error, hfailure _ (by simp only [loadScripts, hsource, hload]), fun topic => ?_⟩
  cases hvalue <;> simp

end

/-- The error of a script or of matching that a failure is due to. -/
def Failure.error? : Failure → Option Error
  | .rejected _ error => some error
  | .unmatched error => some error
  | _ => none

/-- The message of a run: the one that the arguments give, or else the standard input. -/
def Settings.Gives (around : Surroundings) (s : Settings) (message : String) : Prop :=
  s.message = some message ∨ s.message = none ∧ around.stdin = .ok message

/-- The message is left to a standard input that cannot be read. -/
def Settings.Mute (around : Surroundings) (s : Settings) : Prop :=
  s.message = none ∧ ∃ reason, around.stdin = .error reason

/-- There is no message to be read, it is blank, or the first script that does not load cannot be
read. -/
def Settings.Unusable (around : Surroundings) (s : Settings) : Prop :=
  s.Mute around ∨
    (∃ message, s.Gives around message ∧ ∀ c ∈ message.toList, isWhiteSpace c = true) ∨
    ∃ path, FirstFailing around.read s.scripts path ∧ Unread around.read path

/-- The first script that does not load defines a version that is refused, or all scripts load and
none of them creates the topic. -/
def Settings.Rejected (around : Surroundings) (s : Settings) : Prop :=
  (∃ path, FirstFailing around.read s.scripts path ∧ Barred around.read path) ∨
    (∀ path ∈ s.scripts, Loads around.read path) ∧ ¬ Creates around.read s.scripts s.topic

/-- How a run for settings ends: with a failure of the exit code that is due, or with a report. -/
def Settings.Ends (around : Surroundings) (s : Settings) : Nat → Prop
  | 0 => ∃ report, runSettings around s = .ok report
  | code => ∃ failure, runSettings around s = .error failure ∧ failure.exitCode = code ∧
      ∀ topic, failure.error? ≠ some (.unsorted topic)

section
variable {around : Surroundings} {s : Settings}

theorem input_of_mute (h : s.Mute around) :
    ∃ reason, s.input around.stdin = .error (.noInput reason) := by
  obtain ⟨hmessage, reason, hstdin⟩ := h
  exact ⟨reason, by simp only [Settings.input, Settings.given, hmessage, hstdin]⟩

theorem input_of_gives {message : String} (h : s.Gives around message) :
    s.input around.stdin =
      if isBlank message then .error .noMessage else .ok (trimmed message) := by
  obtain hmessage | ⟨hmessage, hstdin⟩ := h
  · simp only [Settings.input, Settings.given, hmessage]
  · simp only [Settings.input, Settings.given, hmessage, hstdin]

theorem mute_or_gives (around : Surroundings) (s : Settings) :
    s.Mute around ∨ ∃ message, s.Gives around message := by
  cases hmessage : s.message with
  | some message => exact .inr ⟨message, .inl hmessage⟩
  | none =>
    cases hstdin : around.stdin with
    | error reason => exact .inl ⟨hmessage, reason, hstdin⟩
    | ok message => exact .inr ⟨message, .inr ⟨hmessage, hstdin⟩⟩

theorem isBlank_iff {text : String} :
    isBlank text = true ↔ ∀ c ∈ text.toList, isWhiteSpace c = true := List.all_eq_true

/-- A run has a message, or it ends with a failure of exit code two before any script is read. -/
theorem input_cases (around : Surroundings) (s : Settings) :
    (∃ failure, s.input around.stdin = .error failure ∧ failure.exitCode = 2 ∧
      failure.error? = none) ∨
    ∃ input, s.input around.stdin = .ok input := by
  obtain hmute | ⟨message, hgives⟩ := mute_or_gives around s
  · obtain ⟨reason, hinput⟩ := input_of_mute hmute
    exact .inl ⟨_, hinput, rfl, rfl⟩
  · rw [input_of_gives hgives]
    split
    · exact .inl ⟨_, rfl, rfl, rfl⟩
    · exact .inr ⟨_, rfl⟩

theorem unusable_iff_of_input {input : String} (h : s.input around.stdin = .ok input) :
    s.Unusable around ↔
      ∃ path, FirstFailing around.read s.scripts path ∧ Unread around.read path := by
  have hmute : ¬ s.Mute around := by
    intro hmute
    obtain ⟨reason, hinput⟩ := input_of_mute hmute
    cases h.symm.trans hinput
  have hblank : ¬ ∃ message, s.Gives around message ∧
      ∀ c ∈ message.toList, isWhiteSpace c = true := by
    rintro ⟨message, hgives, hblank⟩
    rw [input_of_gives hgives, if_pos (isBlank_iff.mpr hblank)] at h
    cases h
  rw [Settings.Unusable, or_iff_right hmute, or_iff_right hblank]

theorem unusable_of_input_eq_error {failure : Failure} (h : s.input around.stdin = .error failure) :
    s.Unusable around := by
  obtain hmute | ⟨message, hgives⟩ := mute_or_gives around s
  · exact .inl hmute
  · refine .inr (.inl ⟨message, hgives, isBlank_iff.mp ?_⟩)
    by_contra hblank
    rw [input_of_gives hgives, if_neg hblank] at h
    cases h

theorem runSettings_of_input {input : String} (h : s.input around.stdin = .ok input) :
    runSettings around s = execute around.read s input := by
  rw [runSettings, h]
  rfl

theorem runSettings_of_input_eq_error {failure : Failure}
    (h : s.input around.stdin = .error failure) : runSettings around s = .error failure := by
  rw [runSettings, h]
  rfl

theorem execute_of_error {read : Reading} {failure : Failure} (input : String)
    (h : loadScripts read s.scripts (.new .standard) = .error failure) :
    execute read s input = .error failure := by
  rw [execute, h]
  rfl

/-- Once the scripts are loaded, only an unknown topic can keep the message from being matched. -/
theorem execute_of_all_load {read : Reading} (input : String)
    (h : ∀ path ∈ s.scripts, Loads read path) :
    (Creates read s.scripts s.topic → ∃ report, execute read s input = .ok report) ∧
    (¬ Creates read s.scripts s.topic →
      execute read s input = .error (.unmatched (.unknownTopic s.topic))) := by
  obtain ⟨b, reports, hload, hknows⟩ := loadScripts_of_all_load (b := .new .standard) rfl h
  have hempty : ¬ (Bot.new .standard).graph.Knows s.topic := by
    rintro ⟨id, hfind⟩
    exact absurd (Graph.lt_size_of_find? hfind) (Nat.not_lt_zero id)
  have hcreates := (hknows s.topic).trans (or_iff_right hempty)
  constructor
  · intro h
    obtain ⟨found, hmatch⟩ := Bot.matchMessage_sort_of_knows (hcreates.mpr h) input s.previous
    cases hexecute : execute read s input with
    | ok report => exact ⟨report, rfl⟩
    | error failure =>
      simp [execute, hload, bind, Except.bind, hmatch, pure, Except.pure] at hexecute
  · intro h
    have hmatch := Bot.matchMessage_sort_of_not_knows (mt hcreates.mp h) input s.previous
    simp only [execute, hload, bind, Except.bind, hmatch]

theorem ends_two (h : s.Unusable around) : s.Ends around 2 := by
  obtain ⟨failure, hinput, hcode, herror⟩ | ⟨input, hinput⟩ := input_cases around s
  · refine ⟨failure, runSettings_of_input_eq_error hinput, hcode, fun topic => ?_⟩
    rw [herror]
    nofun
  · obtain ⟨path, hfirst, hunread⟩ := (unusable_iff_of_input hinput).mp h
    obtain ⟨reason, hload⟩ := loadScripts_of_unread (b := .new .standard) rfl hfirst hunread
    refine ⟨.unreadable path reason, ?_, rfl, fun _ => nofun⟩
    rw [runSettings_of_input hinput, execute_of_error _ hload]

theorem exists_input (h : ¬ s.Unusable around) : ∃ input, s.input around.stdin = .ok input := by
  obtain ⟨_, hinput, _⟩ | hinput := input_cases around s
  · exact absurd (unusable_of_input_eq_error hinput) h
  · exact hinput

theorem ends_one (h : ¬ s.Unusable around) (hrejected : s.Rejected around) : s.Ends around 1 := by
  obtain ⟨input, hinput⟩ := exists_input h
  obtain ⟨path, hfirst, hbarred⟩ | ⟨hall, hcreates⟩ := hrejected
  · obtain ⟨error, hload, herror⟩ :=
      loadScripts_of_barred (b := .new .standard) rfl hfirst hbarred
    refine ⟨.rejected path error, ?_, rfl, fun topic htopic => ?_⟩
    · rw [runSettings_of_input hinput, execute_of_error _ hload]
    · exact herror topic (Option.some.inj htopic)
  · refine ⟨.unmatched (.unknownTopic s.topic), ?_, rfl, fun _ => nofun⟩
    rw [runSettings_of_input hinput]
    exact (execute_of_all_load _ hall).2 hcreates

theorem ends_zero (h : ¬ s.Unusable around) (hrejected : ¬ s.Rejected around) :
    s.Ends around 0 := by
  obtain ⟨input, hinput⟩ := exists_input h
  rw [unusable_iff_of_input hinput] at h
  rw [Settings.Rejected, not_or] at hrejected
  have hall : ∀ path ∈ s.scripts, Loads around.read path := by
    by_contra hnot
    obtain ⟨path, hfirst⟩ := not_all_load_iff.mp hnot
    obtain hunread | hbarred := not_loads_iff.mp hfirst.not_loads
    · exact h ⟨path, hfirst, hunread⟩
    · exact hrejected.1 ⟨path, hfirst, hbarred⟩
  rw [Settings.Ends, runSettings_of_input hinput]
  exact (execute_of_all_load _ hall).1 (not_not.mp fun hcreates => hrejected.2 ⟨hall, hcreates⟩)

theorem exitCode_of_ends {arguments : List String} {code : Nat}
    (hrequest : request around arguments = .ok (.run s)) (h : s.Ends around code) :
    (run around arguments).exitCode = code := by
  cases code with
  | zero =>
    obtain ⟨report, hreport⟩ := h
    simp only [run, hrequest, hreport]
    rfl
  | succ code =>
    obtain ⟨failure, hfailure, hcode, _⟩ := h
    simp only [run, hrequest, hfailure]
    exact hcode

theorem ends_cases (around : Surroundings) (s : Settings) :
    s.Unusable around ∧ s.Ends around 2 ∨
      ¬ s.Unusable around ∧ s.Rejected around ∧ s.Ends around 1 ∨
      ¬ s.Unusable around ∧ ¬ s.Rejected around ∧ s.Ends around 0 := by
  by_cases h : s.Unusable around
  · exact .inl ⟨h, ends_two h⟩
  · by_cases h' : s.Rejected around
    · exact .inr (.inl ⟨h, h', ends_one h h'⟩)
    · exact .inr (.inr ⟨h, h', ends_zero h h'⟩)

/-- No failure of a run is due to a topic that is not sorted. -/
theorem error?_ne_unsorted {failure : Failure} (h : runSettings around s = .error failure)
    (topic : String) : failure.error? ≠ some (.unsorted topic) := by
  obtain ⟨_, other, hother, _, hsorted⟩ | ⟨_, _, other, hother, _, hsorted⟩ |
    ⟨_, _, report, hreport⟩ := ends_cases around s
  · cases h.symm.trans hother
    exact hsorted topic
  · cases h.symm.trans hother
    exact hsorted topic
  · cases h.symm.trans hreport

end

/-- The arguments are rejected, they leave the message to a standard input that cannot be read, the
message is blank, or the first script that does not load cannot be read. -/
def Unusable (around : Surroundings) (arguments : List String) : Prop :=
  (∃ error, request around arguments = .error error) ∨
    ∃ s, request around arguments = .ok (.run s) ∧ s.Unusable around

/-- The first script that does not load is rejected by the version gate, or all scripts load and
none of them creates the topic. -/
def Rejected (around : Surroundings) (arguments : List String) : Prop :=
  ∃ s, request around arguments = .ok (.run s) ∧ s.Rejected around

section
variable {around : Surroundings} {arguments : List String}

theorem unusable_iff {s : Settings} (h : request around arguments = .ok (.run s)) :
    Unusable around arguments ↔ s.Unusable around := by
  simp [Unusable, h]

theorem rejected_iff {s : Settings} (h : request around arguments = .ok (.run s)) :
    Rejected around arguments ↔ s.Rejected around := by
  simp [Rejected, h]

theorem exitCode_cases (hhelp : request around arguments ≠ .ok .help)
    (hversion : request around arguments ≠ .ok .version) :
    Unusable around arguments ∧ (run around arguments).exitCode = 2 ∨
      ¬ Unusable around arguments ∧ Rejected around arguments ∧
        (run around arguments).exitCode = 1 ∨
      ¬ Unusable around arguments ∧ ¬ Rejected around arguments ∧
        (run around arguments).exitCode = 0 := by
  cases hrequest : request around arguments with
  | error error => exact .inl ⟨.inl ⟨error, hrequest⟩, by rw [run, hrequest]; rfl⟩
  | ok asked =>
    cases asked with
    | help => exact absurd hrequest hhelp
    | version => exact absurd hrequest hversion
    | run s =>
      rw [unusable_iff hrequest, rejected_iff hrequest]
      obtain ⟨h, hends⟩ | ⟨h, h', hends⟩ | ⟨h, h', hends⟩ := ends_cases around s
      · exact .inl ⟨h, exitCode_of_ends hrequest hends⟩
      · exact .inr (.inl ⟨h, h', exitCode_of_ends hrequest hends⟩)
      · exact .inr (.inr ⟨h, h', exitCode_of_ends hrequest hends⟩)

/-- Unless help or the version is asked for, the exit code is two exactly if the arguments, the
message or the first script that does not load are unusable; it is one exactly if otherwise that
script is rejected or no script creates the topic; and it is zero in all other cases. A topic that
is not sorted never ends a run. -/
theorem exitCode_iff (hhelp : request around arguments ≠ .ok .help)
    (hversion : request around arguments ≠ .ok .version) :
    ((run around arguments).exitCode = 2 ↔ Unusable around arguments) ∧
    ((run around arguments).exitCode = 1 ↔
      ¬ Unusable around arguments ∧ Rejected around arguments) ∧
    ((run around arguments).exitCode = 0 ↔
      ¬ Unusable around arguments ∧ ¬ Rejected around arguments) ∧
    ∀ s failure topic, runSettings around s = .error failure →
      failure.error? ≠ some (.unsorted topic) := by
  have hsorted : ∀ s failure topic, runSettings around s = .error failure →
      failure.error? ≠ some (.unsorted topic) := fun _ _ topic h => error?_ne_unsorted h topic
  obtain ⟨h, hcode⟩ | ⟨h, h', hcode⟩ | ⟨h, h', hcode⟩ := exitCode_cases hhelp hversion
  · exact ⟨by simp [hcode, h], by simp [hcode, h], by simp [hcode, h], hsorted⟩
  · exact ⟨by simp [hcode, h], by simp [hcode, h, h'], by simp [hcode, h'], hsorted⟩
  · exact ⟨by simp [hcode, h], by simp [hcode, h'], by simp [hcode, h, h'], hsorted⟩

end

/-- A script with an edge between two topics, and with a trigger whose bracket is not closed. The
topic of that trigger is unknown, and the other side of the edge is not. The standard input is not
text, which matters only where the arguments hold no message. -/
theorem exitCode_iff_edge :
    let around : Surroundings :=
      ⟨Directory.read [("a", "> topic sky includes sea\n< topic\n+ (")], .error .notText, false⟩
    let unknown := ["-s", "a", "hello"]
    let known := ["-s", "a", "-t", " SEA", "hello"]
    let mute := ["-s", "a"]
    (request around unknown ≠ .ok .help ∧ request around unknown ≠ .ok .version) ∧
      (run around unknown).exitCode = 1 ∧
      (request around known ≠ .ok .help ∧ request around known ≠ .ok .version) ∧
      (run around known).exitCode = 0 ∧
      (request around mute ≠ .ok .help ∧ request around mute ≠ .ok .version) ∧
      (run around mute).exitCode = 2 := by
  intro around unknown known mute
  have hunknown : request around unknown =
      .ok (.run ⟨["a"], "random", none, some "hello", false⟩) := by decide
  have hknown : request around known =
      .ok (.run ⟨["a"], " SEA", none, some "hello", false⟩) := by decide
  have hmute : request around mute = .ok (.run ⟨["a"], "random", none, none, false⟩) := by decide
  have hread : around.read "a" = .ok "> topic sky includes sea\n< topic\n+ (" := by
    decide +kernel
  have htopics : (Script.read rules "> topic sky includes sea\n< topic\n+ (").toOption.map
      Parsed.topics = some ["sky", "sea"] := by decide +kernel
  obtain ⟨script, hscript, htopics⟩ : ∃ script, Holds around.read "a" script ∧
      script.topics = ["sky", "sea"] := by
    cases h : Script.read rules "> topic sky includes sea\n< topic\n+ (" with
    | error error => simp [h, Except.toOption] at htopics
    | ok script => exact ⟨script, ⟨_, hread, h⟩, by simpa [h, Except.toOption] using htopics⟩
  have hall : ∀ path ∈ ["a"], Loads around.read path :=
    List.forall_mem_singleton.mpr ⟨script, hscript⟩
  have hcreates (topic : String) :
      Creates around.read ["a"] topic ↔ key topic ∈ ["sky", "sea"].map key := by
    rw [creates_cons hscript, htopics]
    simp [Creates]
  have husable (topic : String) :
      ¬ Settings.Unusable around ⟨["a"], topic, none, some "hello", false⟩ := by
    rintro (⟨hnone, _⟩ | ⟨message, hgives, hblank⟩ | ⟨path, hfirst, _⟩)
    · cases hnone
    · obtain hsome | ⟨hnone, _⟩ := hgives
      · obtain rfl : "hello" = message := Option.some.inj hsome
        have hfirst : isWhiteSpace 'h' = true := hblank 'h' (by simp)
        exact absurd hfirst (by decide)
      · cases hnone
    · exact not_all_load_iff.mpr ⟨path, hfirst⟩ hall
  have hne : request around unknown ≠ .ok .help ∧ request around unknown ≠ .ok .version := by
    simp [hunknown]
  have hne' : request around known ≠ .ok .help ∧ request around known ≠ .ok .version := by
    simp [hknown]
  have hne'' : request around mute ≠ .ok .help ∧ request around mute ≠ .ok .version := by
    simp [hmute]
  refine ⟨hne, (exitCode_iff hne.1 hne.2).2.1.mpr ⟨?_, ?_⟩, hne',
    (exitCode_iff hne'.1 hne'.2).2.2.1.mpr ⟨?_, ?_⟩, hne'',
    (exitCode_iff hne''.1 hne''.2).1.mpr ?_⟩
  · rw [unusable_iff hunknown]
    exact husable "random"
  · rw [rejected_iff hunknown]
    exact .inr ⟨hall, (hcreates "random").not.mpr (by decide)⟩
  · rw [unusable_iff hknown]
    exact husable " SEA"
  · rw [rejected_iff hknown]
    rintro (⟨path, hfirst, _⟩ | ⟨_, hnot⟩)
    · exact not_all_load_iff.mpr ⟨path, hfirst⟩ hall
    · exact hnot ((hcreates " SEA").mpr (by decide +kernel))
  · rw [unusable_iff hmute]
    exact .inl ⟨rfl, .notText, rfl⟩

end Parley.CommandLine
