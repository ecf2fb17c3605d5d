import Parley.Proofs.Bot.Runs
import Parley.Proofs.Script.Rendering
import Parley.Proofs.Script.VersionLines

/-!
# What loading a script does

A script that is read does to a bot what its directives say, one after the other, and its report
tells of the script alone. So a script that is written as blocks is as good as the operations that
the blocks spell; a script that fails the version gate does nothing; and a script can be loaded in
two parts where its reader is at rest between them.
-/
namespace Parley

namespace Bot

/-- Why a trigger with these patterns cannot be registered. -/
def fault? (text : String) (previous : Option String) : Option Error :=
  match readPatterns text previous with
  | .ok _ => none
  | .error error => some error

section Register
variable {b : Bot} {topic text : String} {responses : List String} {previous : Option String}

/-- Whether a trigger can be registered does not depend on the bot. -/
theorem error?_register :
    error? (b.register topic text responses previous).2 = fault? text previous := by
  rw [fault?]
  cases h : readPatterns text previous with
  | ok patterns => rw [register_of_read h]; rfl
  | error error => rw [register_of_error h]; rfl

theorem register_of_fault {error : Error} (h : fault? text previous = some error) :
    b.register topic text responses previous = (b, .error error) := by
  cases hread : readPatterns text previous with
  | ok patterns => simp [fault?, hread] at h
  | error other =>
    obtain rfl : other = error := by simpa [fault?, hread] using h
    exact register_of_error hread

theorem step_register_of_fault {error : Error} (h : fault? text previous = some error) :
    b.step (.register topic text responses previous) = b := by
  rw [step, register_of_fault h]

end Register
end Bot

namespace Script

namespace Directive

def trigger? : Directive → Option TriggerText
  | .trigger t => some t
  | _ => none

end Directive

def TriggerText.fault? (t : TriggerText) : Option Error := Bot.fault? t.pattern t.previous

namespace Parsed

def triggers (script : Parsed) : List TriggerText := script.directives.filterMap Directive.trigger?

/-- What is reported once a script has been loaded, into whatever bot. -/
def report (script : Parsed) : LoadReport where
  version := script.version
  triggers := script.triggers.countP (·.fault?.isNone)
  rejected := script.triggers.filterMap TriggerText.fault?
  warnings := script.warnings.map Warning.message

/-- Every trigger is registered or rejected. -/
theorem triggers_add_length_rejected (script : Parsed) :
    script.report.triggers + script.report.rejected.length = script.triggers.length := by
  have hsplit := List.length_eq_countP_add_countP (fun t : TriggerText => t.fault?.isNone)
    (l := script.triggers)
  rw [report, List.length_filterMap_eq_countP, hsplit]
  refine congrArg _ (List.countP_congr fun t _ => ?_)
  cases t.fault? <;> simp

end Parsed
end Script

namespace Bot

/-- Carries out a directive; a trigger that cannot be registered is left out. -/
def perform (b : Bot) : Script.Directive → Bot
  | .array name entries => b.defineArray name entries
  | .topic name includes inherits =>
    inherits.foldl (·.addInherit name ·) (includes.foldl (·.addInclude name ·) (b.ensureTopic name))
  | .trigger t => b.step (.register t.topic t.pattern t.responses t.previous)

theorem bot_apply (a : Applied) (directive : Script.Directive) :
    (apply a directive).bot = a.bot.perform directive := by
  cases directive <;> rfl

theorem outcomes_apply (a : Applied) (directive : Script.Directive) :
    (apply a directive).outcomes.map error? =
      (directive.trigger?.map Script.TriggerText.fault?).toList ++ a.outcomes.map error? := by
  cases directive with
  | array name entries => rfl
  | topic name includes inherits => rfl
  | trigger t => exact congrArg (· :: a.outcomes.map error?) error?_register

/-- The outcomes are those of the triggers, latest first. -/
theorem outcomes_foldl_apply (directives : List Script.Directive) (a : Applied) :
    (directives.foldl apply a).outcomes.map error? =
      ((directives.filterMap Script.Directive.trigger?).map Script.TriggerText.fault?).reverse ++
        a.outcomes.map error? := by
  induction directives generalizing a with
  | nil => rfl
  | cons directive directives ih =>
    rw [List.foldl_cons, ih, outcomes_apply, List.filterMap_cons]
    cases directive.trigger? <;> simp

/-- A script that is read is loaded by carrying out its directives, and its report does not depend
on the bot. -/
theorem load_of_read {b : Bot} {source : String} {script : Script.Parsed}
    (h : Script.read b.scriptRules source = .ok script) :
    b.load source = (script.directives.foldl perform b, .ok script.report) := by
  have hbot : (script.directives.foldl apply ⟨b, []⟩).bot = script.directives.foldl perform b :=
    (List.foldl_hom Applied.bot fun a directive => (bot_apply a directive).symm).symm
  have houtcomes := outcomes_foldl_apply script.directives ⟨b, []⟩
  rw [List.map_nil, List.append_nil] at houtcomes
  have hrejected : (script.directives.foldl apply ⟨b, []⟩).outcomes.reverse.filterMap error? =
      script.report.rejected := by
    have hfaults := congrArg (fun faults => faults.reverse.filterMap id) houtcomes
    simpa [Script.Parsed.report, Script.Parsed.triggers, ← List.map_reverse] using hfaults
  have hlength : (script.directives.foldl apply ⟨b, []⟩).outcomes.reverse.length =
      script.triggers.length := by
    simpa [Script.Parsed.triggers] using congrArg List.length houtcomes
  have hcount := script.triggers_add_length_rejected
  rw [load_of_applied h]
  simp only [hbot, Applied.report, hrejected, hlength]
  rw [← hcount, Nat.add_sub_cancel]
  rfl

theorem scriptRules_load (b : Bot) (source : String) :
    (b.load source).1.scriptRules = b.scriptRules := by
  rw [scriptRules, scriptRules, (b.load_spec source).2]

end Bot

namespace Script

def Stanza.fault? (t : Stanza) : Option Error := Bot.fault? t.pattern t.previous

namespace Block

/-- The operations that a block spells, once its topic exists. -/
def operations (block : Block) : List Operation :=
  block.includes.map (.addEdge .includes block.name) ++
    block.inherits.map (.addEdge .inherits block.name) ++
    block.stanzas.map fun t => .register block.name t.pattern t.responses t.previous

/-- A block without the triggers that cannot be registered. -/
def accepted (block : Block) : Block :=
  { block with stanzas := block.stanzas.filter (·.fault?.isNone) }

end Block
end Script

namespace Bot
open Script Text

/-- Sees to it that the topic of a block exists, and does what the block spells. -/
def enter (b : Bot) (block : Block) : Bot := (b.ensureTopic block.name).run block.operations

theorem foldl_perform_directives (b : Bot) (block : Block) :
    block.directives.foldl perform b = b.enter block := by
  simp only [Block.directives, List.foldl_cons, List.foldl_map, enter, run, Block.operations,
    List.foldl_append]
  rfl

theorem foldl_perform_blocks (b : Bot) (blocks : List Block) :
    (blocks.flatMap Block.directives).foldl perform b = blocks.foldl enter b := by
  rw [List.foldl_flatMap]
  exact congrArg (blocks.foldl · b) (funext₂ foldl_perform_directives)

/-- Triggers that cannot be registered leave no trace. -/
theorem enter_accepted (b : Bot) (block : Block) : b.enter block.accepted = b.enter block := by
  have hstanzas (b : Bot) : (block.stanzas.filter (·.fault?.isNone)).foldl
      (fun b t => b.step (.register block.name t.pattern t.responses t.previous)) b =
        block.stanzas.foldl
          (fun b t => b.step (.register block.name t.pattern t.responses t.previous)) b := by
    rw [List.foldl_filter]
    refine List.foldl_ext _ _ b fun b t _ => ?_
    cases hfault : t.fault? with
    | none => rfl
    | some error => exact (step_register_of_fault hfault).symm
  simp only [enter, run, Block.operations, Block.accepted, List.foldl_append, List.foldl_map,
    hstanzas]

theorem triggers_blocks (blocks : List Block) :
    (blocks.flatMap Block.directives).filterMap Directive.trigger? =
      blocks.flatMap fun block => block.stanzas.map (·.inTopic block.name) := by
  rw [List.filterMap_flatMap]
  refine congrArg (blocks.flatMap ·) (funext fun block => ?_)
  rw [Block.directives, List.filterMap_cons_none rfl, List.filterMap_map]
  exact congrFun List.filterMap_eq_map block.stanzas

/-- A script that is written as blocks is loaded without warnings and does what the blocks spell.
Its triggers are registered or, where a pattern cannot be read, rejected with the error of that
pattern; a rejected trigger might as well not be there. -/
theorem load_blocks (b : Bot) {blocks : List Block} {source : String}
    (h : ∀ block ∈ blocks, block.Plain) (hsource : IsTextOf source (scriptLines blocks)) :
    ∃ report, b.load source = (blocks.foldl enter b, .ok report) ∧ report.warnings = [] ∧
      report.version = none ∧
      report.rejected = (blocks.flatMap Block.stanzas).filterMap Stanza.fault? ∧
      report.triggers + report.rejected.length = (blocks.flatMap Block.stanzas).length ∧
      (blocks.map Block.accepted).foldl enter b = blocks.foldl enter b := by
  let script : Parsed := ⟨none, blocks.flatMap Block.directives, []⟩
  have hload : b.load source = (blocks.foldl enter b, .ok script.report) := by
    rw [load_of_read (read_of_isTextOf h hsource), foldl_perform_blocks]
  have htriggers : script.triggers =
      blocks.flatMap fun block => block.stanzas.map (·.inTopic block.name) := triggers_blocks blocks
  refine ⟨script.report, hload, rfl, rfl, ?_, ?_, ?_⟩
  · rw [Parsed.report, htriggers, List.filterMap_flatMap, List.filterMap_flatMap]
    simp only [List.filterMap_map]
    rfl
  · rw [script.triggers_add_length_rejected, htriggers]
    simp [List.length_flatMap]
  · rw [List.foldl_map]
    exact congrArg (blocks.foldl · b) (funext₂ enter_accepted)

/-- Two blocks; a bracket of the first trigger is not closed. -/
theorem load_blocks_with_unclosed :
    let b := new .standard
    let blocks : List Block :=
      [⟨"sea", ["wind"], ["land"],
        [⟨"the (", none, ["lost"]⟩, ⟨"ahoy *", some "land ho", ["aye", ""]⟩]⟩,
        ⟨"wind", [], [], [⟨"blow", none, []⟩]⟩]
    let source := "> topic sea includes wind inherits land\n+ the (\n- lost\n+ ahoy *\n" ++
      "% land ho\n- aye\n- \n< topic\n> topic wind\n+ blow\n< topic"
    (∀ block ∈ blocks, block.Plain) ∧ IsTextOf source (scriptLines blocks) ∧
      ∃ report, b.load source = (blocks.foldl enter b, .ok report) ∧ report.warnings = [] ∧
        report.rejected.map Error.message = ["malformed pattern 'the (': unclosed '('"] ∧
        report.triggers = 2 ∧ (blocks.map Block.accepted).foldl enter b = blocks.foldl enter b := by
  intro b blocks source
  have hplain : ∀ block ∈ blocks, block.Plain := by decide +kernel
  have hsource : IsTextOf source (scriptLines blocks) := .inl (by decide +kernel)
  obtain ⟨report, hload, hwarnings, _, hrejected, hcount, haccepted⟩ := load_blocks b hplain hsource
  have hmessage : ((blocks.flatMap Block.stanzas).filterMap Stanza.fault?).map Error.message =
      ["malformed pattern 'the (': unclosed '('"] := by decide +kernel
  rw [← hrejected] at hmessage
  have hlength : report.rejected.length = 1 := by simpa using congrArg List.length hmessage
  refine ⟨hplain, hsource, report, hload, hwarnings, hmessage, ?_, haccepted⟩
  rw [hlength] at hcount
  exact Nat.succ.inj hcount

theorem load_eq_error_iff {b : Bot} {source : String} {error : Error} :
    (b.load source).2 = .error error ↔ gate b.options.supported none
      (versions [] (source.toList.splitOn '\n')) = .error error := by
  have hversion : gate b.options.supported none (versions [] (source.toList.splitOn '\n')) =
      (Script.read b.scriptRules source).map Parsed.version := by
    rw [← versions_lines]
    exact (version_read b.scriptRules source).symm
  rw [hversion]
  cases hread : Script.read b.scriptRules source with
  | ok script => simp [load_of_read hread, Except.map]
  | error other => simp [load_of_error hread, Except.map]

theorem version_of_load {b : Bot} {source : String} {report : LoadReport}
    (h : (b.load source).2 = .ok report) : report.version =
      (versions [] (source.toList.splitOn '\n')).getLast?.bind Decimal.read? := by
  have hversion := version_read b.scriptRules source
  rw [versions_lines] at hversion
  cases hread : Script.read b.scriptRules source with
  | ok script =>
    rw [load_of_read hread] at h
    rw [hread] at hversion
    rw [← Except.ok.inj h, Parsed.report, version_of_gate hversion.symm]
    cases (versions [] (source.toList.splitOn '\n')).getLast? <;> rfl
  | error error =>
    rw [load_of_error hread] at h
    cases h

/-- Whether a script is loaded, and with which error it is not, is decided by the values of the
versions that its lines define: the first one that is refused stops it, and the bot stays as it was.
If none is refused, the last one is reported. -/
theorem load_gate (b : Bot) (source : String) :
    let texts := source.toList.splitOn '\n'
    ∃ values, Declared [] texts values ∧
      ((∃ error, (b.load source).2 = .error error) ↔
        ∃ front text back value error, texts = front ++ text :: back ∧
          Declares front.reverse text value ∧ Refused b.options.supported value error) ∧
      (∀ error, (b.load source).2 = .error error ↔
        ∃ front value back, values = front ++ value :: back ∧
          (∀ other ∈ front, ∃ x, Allowed b.options.supported other x) ∧
          Refused b.options.supported value error) ∧
      (∀ error, (b.load source).2 = .error error → (b.load source).1 = b) ∧
      (∀ report, (b.load source).2 = .ok report →
        report.version = values.getLast?.bind Decimal.read?) := by
  intro texts
  refine ⟨versions [] texts, declared_versions [] texts, ?_,
    fun error => load_eq_error_iff.trans gate_eq_error_iff, fun error => fst_load_of_error,
    fun report => version_of_load⟩
  rw [exists_congr fun error => load_eq_error_iff]
  exact exists_gate_versions_iff

/-- Versions in a comment and in an object do not count. Another one is refused because it is no
number, and 99 if it is above the supported version. -/
theorem load_gate_refused :
    let b := new .standard
    let source := "/* ! version = a\n! version = b */\n> object c\n! version = d\n< object\n" ++
      "+ hello\n ! version of sea = ninety // e\n! version = 1"
    ((b.load source).2 = .error (.invalidVersion "ninety") ∧ (b.load source).1 = b) ∧
      ((∃ error, (b.load "! version = 99").2 = .error error) ↔
        ∃ error, Refused b.options.supported "99".toList error) := by
  intro b source
  obtain ⟨values, hvalues, _, herror, hunchanged, _⟩ := load_gate b source
  obtain rfl : values = ["ninety".toList, "1".toList] := by
    rw [hvalues.unique (declared_versions _ _)]
    decide +kernel
  have hninety : Refused b.options.supported "ninety".toList (.invalidVersion "ninety") := by
    have hnumber : Decimal.read? "ninety".toList = none := by decide +kernel
    refine .notFinite fun x hx => ?_
    rw [hnumber] at hx
    cases hx
  have hload := (herror (.invalidVersion "ninety")).mpr
    ⟨[], "ninety".toList, ["1".toList], rfl, by simp, hninety⟩
  obtain ⟨values, hvalues, _, herror, _⟩ := load_gate b "! version = 99"
  obtain rfl : values = ["99".toList] := by
    rw [hvalues.unique (declared_versions _ _)]
    decide +kernel
  refine ⟨⟨hload, hunchanged _ hload⟩, exists_congr fun error => (herror error).trans ?_⟩
  constructor
  · rintro ⟨front, value, back, heq, _, hrefused⟩
    have hmem : value ∈ ["99".toList] := by
      rw [heq]
      simp
    rwa [List.mem_singleton.mp hmem] at hrefused
  · exact fun hrefused => ⟨[], _, [], rfl, by simp, hrefused⟩

/-- A closed script can be loaded together with the one that follows it. -/
theorem load_append (b : Bot) {first second : String} {script : Parsed}
    (hfirst : EndsLine first.toList) (hclosed : Closed b.scriptRules first)
    (hsecond : Script.read b.scriptRules second = .ok script) :
    ∃ b₁ r₁ b₂ r₂, b.load first = (b₁, .ok r₁) ∧ b₁.load second = (b₂, .ok r₂) ∧
      r₂.warnings = script.warnings.map Warning.message ∧
      b.load (first ++ second) = (b₂, .ok
        { version := r₂.version.or r₁.version
          triggers := r₁.triggers + r₂.triggers
          rejected := r₁.rejected ++ r₂.rejected
          warnings := r₁.warnings ++ (script.warnings.map
            (·.shift (lines first.toList).length)).map Warning.message }) := by
  obtain ⟨script₁, hread, happend⟩ := read_append hfirst hclosed
  have hload₁ := load_of_read hread
  have hrules : (script₁.directives.foldl perform b).scriptRules = b.scriptRules := by
    rw [← b.scriptRules_load first, hload₁]
  have hload₂ := load_of_read (hrules ▸ hsecond)
  refine ⟨_, _, _, _, hload₁, hload₂, rfl, ?_⟩
  have hboth := happend second
  rw [hsecond] at hboth
  rw [load_of_read hboth]
  simp [Parsed.append, Parsed.report, Parsed.triggers, List.foldl_append, List.filterMap_append,
    List.countP_append]

/-- Each of two scripts declares a version, and the second one holds a stray word. -/
theorem load_append_stray_word :
    let b := new .standard
    let first := "! version = 1\n+ hello\n- hi\n< topic\n"
    let second := "// sea\n> topic sea salt\n! version = 2\n+ ahoy"
    EndsLine first.toList ∧ Closed b.scriptRules first ∧
      ∃ script, Script.read b.scriptRules second = .ok script ∧
        ∃ b₁ r₁ b₂ r₂, b.load first = (b₁, .ok r₁) ∧ b₁.load second = (b₂, .ok r₂) ∧
          r₂.warnings = ["line 2: stray word 'salt'"] ∧
          b.load (first ++ second) = (b₂, .ok
            { version := r₂.version.or r₁.version
              triggers := r₁.triggers + r₂.triggers
              rejected := r₁.rejected ++ r₂.rejected
              warnings := r₁.warnings ++ ["line 6: stray word 'salt'"] }) := by
  intro b first second
  have hfirst : EndsLine first.toList := by decide +kernel
  have hclosed : Closed b.scriptRules first := by decide +kernel
  have hwarnings : (Script.read b.scriptRules second).toOption.map Parsed.warnings =
      some [⟨2, .strayWord "salt"⟩] := by decide +kernel
  obtain ⟨script, hsecond⟩ : ∃ script, Script.read b.scriptRules second = .ok script := by
    cases h : Script.read b.scriptRules second with
    | ok script => exact ⟨script, rfl⟩
    | error e => simp [h, Except.toOption] at hwarnings
  obtain ⟨b₁, r₁, b₂, r₂, hload₁, hload₂, hr₂, hload⟩ := load_append b hfirst hclosed hsecond
  have hscript : script.warnings = [⟨2, .strayWord "salt"⟩] := by
    simpa [hsecond, Except.toOption] using hwarnings
  have hlines : (lines first.toList).length = 4 := by decide +kernel
  rw [hscript] at hr₂ hload
  rw [hlines] at hload
  exact ⟨hfirst, hclosed, script, hsecond, b₁, r₁, b₂, r₂, hload₁, hload₂, hr₂, hload⟩

end Bot
end Parley
