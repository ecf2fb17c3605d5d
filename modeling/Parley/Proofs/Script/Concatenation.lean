import Parley.Proofs.Text.Lines
import Parley.Script.Reader

/-!
# Scripts one after the other

A reader never looks back at what it has noted, only at the place where it stands. If it stands at
the end of one script where it began, it therefore reads another script behind it as it would read
that one alone, with the numbers of the lines shifted.
-/
namespace Parley.Script
open Parley.Text

def Warning.shift (n : Nat) (w : Warning) : Warning := { w with line := n + w.line }

/-- What two scripts amount to, one behind the other, where the first has `n` lines. The later
version counts. -/
def Parsed.append (first : Parsed) (n : Nat) (second : Parsed) : Parsed where
  version := second.version.or first.version
  directives := first.directives ++ second.directives
  warnings := first.warnings ++ second.warnings.map (·.shift n)

/-- The reader stands where it starts: outside blocks and comments, with no trigger open. -/
structure State.AtRest (rules : Rules) (s : State) : Prop where
  topic : s.topic = rules.defaultTopic
  current : s.current = none
  inComment : s.inComment = false
  inObject : s.inObject = false

instance (rules : Rules) (s : State) : Decidable (s.AtRest rules) :=
  decidable_of_iff
    (s.topic = rules.defaultTopic ∧ s.current = none ∧ s.inComment = false ∧ s.inObject = false)
    ⟨fun ⟨topic, current, comment, object⟩ => ⟨topic, current, comment, object⟩,
      fun h => ⟨h.topic, h.current, h.inComment, h.inObject⟩⟩

/-- Closing a trigger notes it and changes nothing else. -/
theorem State.closeTrigger_eq (s : State) : s.closeTrigger =
    { s with
      directives := (s.current.map Directive.trigger).toList ++ s.directives
      current := none } := by
  obtain ⟨version, directives, warnings, topic, current, inComment, inObject⟩ := s
  cases current with
  | none => rfl
  | some trigger => rfl

theorem readLines_append (rules : Rules) (line : Nat) (first second : List (List Char))
    (s : State) : readLines rules line (first ++ second) s =
      readLines rules line first s >>= readLines rules (line + first.length) second := by
  induction first generalizing line s with
  | nil => rfl
  | cons text first ih =>
    rw [List.cons_append, readLines, readLines]
    cases readLine rules line text s with
    | error e => rfl
    | ok s' =>
      have hline : line + (text :: first).length = line + 1 + first.length := by
        rw [List.length_cons]
        omega
      rw [hline]
      exact ih (line + 1) s'

theorem read_eq_ok_iff {rules : Rules} {source : String} {script : Parsed} :
    read rules source = .ok script ↔
      ∃ s, readLines rules 1 (lines source.toList) (.start rules.defaultTopic) = .ok s ∧
        s.finish = script := by
  unfold read
  cases readLines rules 1 (lines source.toList) (.start rules.defaultTopic) with
  | error e => simp [bind, Except.bind]
  | ok s => simp [bind, Except.bind, pure, Except.pure]

/-- The state of a reader that stands where `s` does and had noted `earlier` in `n` lines before. -/
def State.behind (earlier : Parsed) (n : Nat) (s : State) : State :=
  { s with
    version := s.version.or earlier.version
    directives := s.directives ++ earlier.directives.reverse
    warnings := s.warnings.map (·.shift n) ++ earlier.warnings.reverse }

section Behind
variable (earlier : Parsed) (n : Nat)

theorem State.warn_behind (s : State) (line : Nat) (oddity : Oddity) :
    (s.behind earlier n).warn (n + line) oddity = (s.warn line oddity).behind earlier n := rfl

theorem State.closeTrigger_behind (s : State) :
    (s.behind earlier n).closeTrigger = s.closeTrigger.behind earlier n := by
  simp [closeTrigger_eq, behind]

theorem readDefinition_behind (rules : Rules) (line : Nat) (argument : List Char) (s : State) :
    readDefinition rules (n + line) argument (s.behind earlier n) =
      (readDefinition rules line argument s).map (·.behind earlier n) := by
  unfold readDefinition
  cases Definition.read? argument with
  | none => rfl
  | some d =>
    dsimp only
    split
    · cases readVersion rules.supported d.value with
      | error e => rfl
      | ok version => rfl
    · split
      · split <;> rfl
      · rfl

theorem openTopic_behind (line : Nat) (words : List String) (s : State) :
    openTopic (n + line) words (s.behind earlier n) =
      (openTopic line words s).behind earlier n := by
  cases words with
  | nil => rfl
  | cons name rest =>
    have hstray : (readRelatives none rest).stray.foldl
        (fun s word => s.warn (n + line) (.strayWord word)) (s.behind earlier n) =
          ((readRelatives none rest).stray.foldl
            (fun s word => s.warn line (.strayWord word)) s).behind earlier n :=
      List.foldl_hom (State.behind earlier n)
        fun s word => s.warn_behind earlier n line (.strayWord word)
    simp only [openTopic, hstray]
    rfl

theorem openBlock_behind (rules : Rules) (line : Nat) (argument : List Char) (s : State) :
    openBlock rules (n + line) argument (s.behind earlier n) =
      (openBlock rules line argument s).behind earlier n := by
  unfold openBlock
  rw [State.closeTrigger_behind]
  cases (words argument).map String.ofList with
  | nil => rfl
  | cons kind rest =>
    dsimp only
    split
    · exact openTopic_behind earlier n line rest s.closeTrigger
    · split
      · rfl
      · split <;> rfl

theorem continueResponse_behind (line : Nat) (text : String) (s : State) :
    continueResponse (n + line) text (s.behind earlier n) =
      (continueResponse line text s).behind earlier n := by
  obtain ⟨version, directives, warnings, topic, current, inComment, inObject⟩ := s
  cases current with
  | none => rfl
  | some trigger =>
    simp only [continueResponse, State.behind]
    cases trigger.responses.getLast? with
    | none => rfl
    | some last => rfl

theorem readCommand_behind (rules : Rules) (line : Nat) (symbol : Char) (argument : List Char)
    (s : State) : readCommand rules (n + line) symbol argument (s.behind earlier n) =
      (readCommand rules line symbol argument s).map (·.behind earlier n) := by
  unfold readCommand
  split
  · exact readDefinition_behind earlier n rules line argument s
  · exact congrArg Except.ok (openBlock_behind earlier n rules line argument s)
  · rw [State.closeTrigger_behind]
    rfl
  · rw [State.closeTrigger_behind]
    rfl
  · obtain ⟨version, directives, warnings, topic, current, inComment, inObject⟩ := s
    cases current <;> rfl
  · obtain ⟨version, directives, warnings, topic, current, inComment, inObject⟩ := s
    cases current <;> rfl
  · exact congrArg Except.ok (continueResponse_behind earlier n line _ s)
  · rfl

/-- A line is read alike behind another script. -/
theorem readLine_behind (rules : Rules) (line : Nat) (text : List Char) (s : State) :
    readLine rules (n + line) text (s.behind earlier n) =
      (readLine rules line text s).map (·.behind earlier n) := by
  have hcomment : (s.behind earlier n).inComment = s.inComment := rfl
  have hobject : (s.behind earlier n).inObject = s.inObject := rfl
  unfold readLine
  rw [hcomment, hobject]
  dsimp only
  split
  · rfl
  · split
    · rfl
    · rfl
    · split
      · rfl
      · exact readCommand_behind earlier n rules line _ _ s

theorem readLines_behind (rules : Rules) (line : Nat) (texts : List (List Char)) (s : State) :
    readLines rules (n + line) texts (s.behind earlier n) =
      (readLines rules line texts s).map (·.behind earlier n) := by
  induction texts generalizing line s with
  | nil => rfl
  | cons text texts ih =>
    rw [readLines, readLines, readLine_behind]
    cases readLine rules line text s with
    | error e => rfl
    | ok s' => exact ih (line + 1) s'

theorem State.finish_behind (s : State) :
    (s.behind earlier n).finish = earlier.append n s.finish := by
  rw [finish, closeTrigger_behind]
  simp [behind, Parsed.append, finish]

end Behind

/-- A reader at rest stands as one that has just started, behind what it has read. -/
theorem State.AtRest.eq_behind {rules : Rules} {s : State} (h : s.AtRest rules) (n : Nat) :
    s = (State.start rules.defaultTopic).behind s.finish n := by
  obtain ⟨version, directives, warnings, topic, current, inComment, inObject⟩ := s
  obtain ⟨rfl, rfl, rfl, rfl⟩ := h
  simp [start, behind, finish, closeTrigger]

/-- The reader of a script stands at its end where it began. -/
def Closed (rules : Rules) (source : String) : Prop :=
  ∃ s, readLines rules 1 (lines source.toList) (.start rules.defaultTopic) = .ok s ∧ s.AtRest rules

instance (rules : Rules) (source : String) : Decidable (Closed rules source) :=
  match h : readLines rules 1 (lines source.toList) (.start rules.defaultTopic) with
  | .ok s => decidable_of_iff (s.AtRest rules) (by simp [Closed, h])
  | .error _ => isFalse (by simp [Closed, h])

/-- A script is read behind a closed one as it is read alone. -/
theorem read_append {rules : Rules} {first : String} (hfirst : EndsLine first.toList)
    (hclosed : Closed rules first) : ∃ script, read rules first = .ok script ∧
      ∀ second, read rules (first ++ second) =
        (read rules second).map (script.append (lines first.toList).length) := by
  obtain ⟨s, hread, hrest⟩ := hclosed
  refine ⟨s.finish, read_eq_ok_iff.mpr ⟨s, hread, rfl⟩, fun second => ?_⟩
  have hbehind := readLines_behind s.finish (lines first.toList).length rules 1
    (lines second.toList) (.start rules.defaultTopic)
  rw [← hrest.eq_behind, Nat.add_comm] at hbehind
  rw [read, read, String.toList_append, lines_append hfirst, readLines_append, hread, bind,
    Monad.toBind, Except.instMonad]
  simp only [Except.bind, hbehind]
  cases readLines rules 1 (lines second.toList) (.start rules.defaultTopic) with
  | error e => rfl
  | ok s' => exact congrArg Except.ok (s'.finish_behind s.finish _)

end Parley.Script
