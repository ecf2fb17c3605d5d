import Mathlib.Data.List.Basic
import Parley.Proofs.Script.Concatenation

/-!
# The version gate

Which lines of a script lie in block comments and objects can be told from the lines before them,
and so can the version definitions that are read. Reading a script fails exactly at the first of
them whose value is no finite number or is above the supported version, whatever else the script
holds; a script that is read has the last version that it declares.
-/
namespace Parley.Script
open Parley.Text

/-- Whether a block comment is open after lines, which are given latest first. -/
def commentOpen : List (List Char) → Bool
  | [] => false
  | text :: before =>
    if commentOpen before then !Line.endsComment (trim text)
    else Line.ofTrimmed (trim text) = .comment false

def opensObject (symbol : Char) (argument : List Char) : Bool :=
  symbol = '>' && ((words argument).map String.ofList).head? = some "object"

def closesObject (symbol : Char) (argument : List Char) : Bool :=
  symbol = '<' && "object".toList.isPrefixOf argument

/-- Whether an object is open after lines, which are given latest first. -/
def objectOpen : List (List Char) → Bool
  | [] => false
  | text :: before =>
    if commentOpen before then objectOpen before
    else
      match Line.ofTrimmed (trim text) with
      | .command symbol argument =>
        if objectOpen before then !closesObject symbol argument else opensObject symbol argument
      | _ => objectOpen before

/-- The value of the version that a command defines. -/
def definedVersion? (symbol : Char) (argument : List Char) : Option (List Char) :=
  if symbol = '!' then
    ((Definition.read? argument).filter fun d => d.kind = "version").map Definition.value
  else none

/-- The value of the version that a line defines if it is read as a command. -/
def versionOf? (text : List Char) : Option (List Char) :=
  match Line.ofTrimmed (trim text) with
  | .command symbol argument => definedVersion? symbol argument
  | _ => none

/-- The values of the versions that lines define, in their order, behind the lines `before`. -/
def versions (before : List (List Char)) : List (List Char) → List (List Char)
  | [] => []
  | text :: rest =>
    (if commentOpen before || objectOpen before then [] else (versionOf? text).toList) ++
      versions (text :: before) rest

/-- A value spells a version that a reader takes. -/
structure Allowed (supported : Float) (value : List Char) (x : Float) : Prop where
  spelled : Decimal.read? value = some x
  finite : x.isFinite = true
  supported : ¬ x > supported

/-- A value is refused with an error. -/
inductive Refused (supported : Float) (value : List Char) : Error → Prop
  | notFinite (h : ∀ x, Decimal.read? value = some x → x.isFinite = false) :
      Refused supported value (.invalidVersion (String.ofList value))
  | tooNew {x : Float} (hspelled : Decimal.read? value = some x) (hfinite : x.isFinite = true)
      (habove : x > supported) : Refused supported value (.tooNew x supported)

theorem readVersion_eq_ok_iff {supported : Float} {value : List Char} {x : Float} :
    readVersion supported value = .ok x ↔ Allowed supported value x := by
  unfold readVersion
  constructor
  · intro h
    split at h
    · cases h
    · rename_i declared hdeclared
      obtain ⟨hspelled, hfinite⟩ := Option.filter_eq_some_iff.mp hdeclared
      split at h
      · cases h
      · rename_i hsupported
        cases h
        exact ⟨hspelled, hfinite, hsupported⟩
  · intro h
    have hfilter := Option.filter_eq_some_iff.mpr ⟨h.spelled, h.finite⟩
    simp only [hfilter, if_neg h.supported]

theorem readVersion_eq_error_iff {supported : Float} {value : List Char} {error : Error} :
    readVersion supported value = .error error ↔ Refused supported value error := by
  unfold readVersion
  constructor
  · intro h
    split at h
    · rename_i hnone
      cases h
      refine .notFinite fun x hx => ?_
      simpa using Option.filter_eq_none_iff.mp hnone x hx
    · rename_i declared hdeclared
      obtain ⟨hspelled, hfinite⟩ := Option.filter_eq_some_iff.mp hdeclared
      split at h
      · rename_i habove
        cases h
        exact .tooNew hspelled hfinite habove
      · cases h
  · intro h
    cases h with
    | notFinite h =>
      have hfilter : (Decimal.read? value).filter Float.isFinite = none :=
        Option.filter_eq_none_iff.mpr fun x hx => by simp [h x hx]
      simp only [hfilter]
    | tooNew hspelled hfinite habove =>
      have hfilter := Option.filter_eq_some_iff.mpr ⟨hspelled, hfinite⟩
      simp only [hfilter, if_pos habove]

/-- The version after the definitions of these values, where `version` stood before. -/
def gate (supported : Float) : Option Float → List (List Char) → Except Error (Option Float)
  | version, [] => .ok version
  | _, value :: rest => do gate supported (some (← readVersion supported value)) rest

theorem gate_append (supported : Float) (version : Option Float) (first second : List (List Char)) :
    gate supported version (first ++ second) =
      gate supported version first >>= (gate supported · second) := by
  induction first generalizing version with
  | nil => rfl
  | cons value first ih =>
    rw [List.cons_append, gate, gate]
    cases readVersion supported value with
    | error e => rfl
    | ok x => exact ih (some x)

/-- The first value that is refused decides. -/
theorem gate_eq_error_iff {supported : Float} {version : Option Float}
    {values : List (List Char)} {error : Error} :
    gate supported version values = .error error ↔ ∃ front value back,
      values = front ++ value :: back ∧ (∀ other ∈ front, ∃ x, Allowed supported other x) ∧
        Refused supported value error := by
  induction values generalizing version with
  | nil => simp [gate]
  | cons value rest ih =>
    rw [gate]
    cases hread : readVersion supported value with
    | error e =>
      have hrefused := readVersion_eq_error_iff.mp hread
      constructor
      · intro h
        cases h
        exact ⟨[], value, rest, rfl, by simp, hrefused⟩
      · rintro ⟨front, value', back, heq, hfront, h⟩
        obtain _ | ⟨first, front⟩ := front
        · obtain ⟨rfl, rfl⟩ := List.cons.inj heq
          rw [readVersion_eq_error_iff.mpr h] at hread
          exact congrArg Except.error (Except.error.inj hread).symm
        · obtain ⟨rfl, rfl⟩ := List.cons.inj heq
          obtain ⟨x, hx⟩ := hfront _ List.mem_cons_self
          rw [readVersion_eq_ok_iff.mpr hx] at hread
          cases hread
    | ok x =>
      have hallowed := readVersion_eq_ok_iff.mp hread
      refine (ih : gate supported (some x) rest = .error error ↔ _).trans ?_
      constructor
      · rintro ⟨front, value', back, rfl, hfront, h⟩
        refine ⟨value :: front, value', back, rfl, ?_, h⟩
        rintro other (_ | ⟨_, hother⟩)
        · exact ⟨x, hallowed⟩
        · exact hfront other hother
      · rintro ⟨front, value', back, heq, hfront, h⟩
        obtain _ | ⟨first, front⟩ := front
        · obtain ⟨rfl, rfl⟩ := List.cons.inj heq
          rw [readVersion_eq_error_iff.mpr h] at hread
          cases hread
        · obtain ⟨rfl, rfl⟩ := List.cons.inj heq
          exact ⟨front, value', back, rfl, fun other hother =>
            hfront other (List.mem_cons_of_mem _ hother), h⟩

theorem exists_gate_eq_error_iff {supported : Float} {version : Option Float}
    {values : List (List Char)} : (∃ error, gate supported version values = .error error) ↔
      ∃ value ∈ values, ∃ error, Refused supported value error := by
  induction values generalizing version with
  | nil => simp [gate]
  | cons value rest ih =>
    rw [gate, List.exists_mem_cons_iff]
    cases hread : readVersion supported value with
    | error e => exact iff_of_true ⟨e, rfl⟩ (.inl ⟨e, readVersion_eq_error_iff.mp hread⟩)
    | ok x =>
      refine ih.trans (or_iff_right ?_).symm
      rintro ⟨error, h⟩
      rw [readVersion_eq_error_iff.mpr h] at hread
      cases hread

/-- Of values that are all let in, the last one is kept. -/
theorem version_of_gate {supported : Float} {version result : Option Float}
    {values : List (List Char)} (h : gate supported version values = .ok result) :
    result = match values.getLast? with
      | some value => Decimal.read? value
      | none => version := by
  induction values generalizing version with
  | nil => exact (Except.ok.inj h).symm
  | cons value rest ih =>
    rw [gate] at h
    cases hread : readVersion supported value with
    | error e =>
      rw [hread] at h
      cases h
    | ok x =>
      rw [hread] at h
      rw [ih h, List.getLast?_cons]
      cases rest.getLast? with
      | none => exact (readVersion_eq_ok_iff.mp hread).spelled.symm
      | some last => rfl

/-- Two results that look alike fail with one error, or both succeed. -/
theorem cases_of_map_eq {α β γ : Type} {x : Except Error α} {y : Except Error β} {f : α → γ}
    {g : β → γ} (h : x.map f = y.map g) : (∃ e, x = .error e ∧ y = .error e) ∨
      ∃ a b, x = .ok a ∧ y = .ok b ∧ f a = g b := by
  cases x with
  | error e =>
    cases y with
    | error e' => exact .inl ⟨e, rfl, congrArg Except.error (Except.error.inj h).symm⟩
    | ok b => cases h
  | ok a =>
    cases y with
    | error e => cases h
    | ok b => exact .inr ⟨a, b, rfl, rfl, Except.ok.inj h⟩

/-- The version and the modes of a reader, which most commands leave alone. -/
def State.standing (s : State) : Option Float × Bool × Bool := (s.version, s.inComment, s.inObject)

@[simp] theorem State.standing_warn (s : State) (line : Nat) (oddity : Oddity) :
    (s.warn line oddity).standing = s.standing := rfl

@[simp] theorem State.standing_closeTrigger (s : State) : s.closeTrigger.standing = s.standing := by
  rw [closeTrigger_eq, standing, standing]

theorem standing_openTopic (line : Nat) (words : List String) (s : State) :
    (openTopic line words s).standing = s.standing := by
  cases words with
  | nil => rfl
  | cons name rest =>
    have hstray : ∀ stray : List String, (stray.foldl
        (fun s word => s.warn line (.strayWord word)) s).standing = s.standing := by
      intro stray
      exact List.foldlRecOn (motive := fun s' : State => s'.standing = s.standing) stray _ rfl
        fun s' hs' word _ => (s'.standing_warn line (.strayWord word)).trans hs'
    exact hstray _

theorem standing_openBlock (rules : Rules) (line : Nat) (argument : List Char) (s : State) :
    (openBlock rules line argument s).standing =
      (s.version, s.inComment, s.inObject || opensObject '>' argument) := by
  have hclose : s.closeTrigger.standing = s.standing := s.standing_closeTrigger
  unfold openBlock opensObject
  cases (words argument).map String.ofList with
  | nil =>
    rw [State.standing_warn, hclose]
    simp [State.standing]
  | cons kind rest =>
    dsimp only
    split
    · rename_i htopic
      subst htopic
      rw [standing_openTopic, hclose]
      simp [State.standing]
    · split
      · rename_i hbegin
        subst hbegin
        simpa [State.standing, State.add] using hclose
      · split
        · rename_i hobject
          subst hobject
          simpa [State.standing] using And.intro (congrArg Prod.fst hclose)
            (congrArg (·.2.1) hclose)
        · rename_i hobject
          rw [State.standing_warn, hclose]
          simp [State.standing, hobject]

theorem standing_continueResponse (line : Nat) (text : String) (s : State) :
    (continueResponse line text s).standing = s.standing := by
  unfold continueResponse
  split
  · rfl
  · split <;> rfl

theorem standing_readDefinition (rules : Rules) (line : Nat) (argument : List Char) (s : State) :
    (readDefinition rules line argument s).map State.standing =
      (gate rules.supported s.version (definedVersion? '!' argument).toList).map
        fun version => (version, s.inComment, s.inObject) := by
  rw [definedVersion?, if_pos rfl]
  unfold readDefinition
  cases Definition.read? argument with
  | none => rfl
  | some d =>
    by_cases hkind : d.kind = "version"
    · simp only [hkind, Option.filter_some, if_true, decide_true, Option.map_some,
        Option.toList_some, gate]
      cases readVersion rules.supported d.value <;> rfl
    · simp only [hkind, Option.filter_some, if_false, decide_false, Bool.false_eq_true,
        Option.map_none, Option.toList_none, gate]
      split
      · split <;> rfl
      · rfl

/-- Only a definition can change the version or fail, and only the opening of an object the mode. -/
theorem standing_readCommand (rules : Rules) (line : Nat) (symbol : Char) (argument : List Char)
    {s : State} (hobject : s.inObject = false) :
    (readCommand rules line symbol argument s).map State.standing =
      (gate rules.supported s.version (definedVersion? symbol argument).toList).map
        fun version => (version, s.inComment, opensObject symbol argument) := by
  have hother (h : symbol ≠ '>') : opensObject symbol argument = false := by
    simp [opensObject, h]
  unfold readCommand
  split
  · rw [hother (by decide), ← hobject]
    exact standing_readDefinition rules line argument s
  · have hblock := standing_openBlock rules line argument s
    rw [hobject, Bool.false_or] at hblock
    exact congrArg Except.ok hblock
  · rw [hother (by decide), ← hobject]
    exact congrArg Except.ok s.standing_closeTrigger
  · rw [hother (by decide), ← hobject]
    exact congrArg Except.ok s.standing_closeTrigger
  · rw [hother (by decide), ← hobject]
    cases s.current <;> rfl
  · rw [hother (by decide), ← hobject]
    cases s.current <;> rfl
  · rw [hother (by decide), ← hobject]
    exact congrArg Except.ok (standing_continueResponse line _ s)
  · rename_i hdefinition hblock _ _ _ _ _
    rw [definedVersion?, if_neg hdefinition, hother hblock, ← hobject]
    rfl

/-- One line: a reader that is in the mode of the lines before is in the mode of the lines up to
this one, unless the line defines a version that is refused. -/
theorem standing_readLine (rules : Rules) (line : Nat) (text : List Char) {s : State}
    {before : List (List Char)} (hcomment : s.inComment = commentOpen before)
    (hobject : s.inObject = objectOpen before) :
    (readLine rules line text s).map State.standing =
      (gate rules.supported s.version (if commentOpen before || objectOpen before then []
        else (versionOf? text).toList)).map
          fun version => (version, commentOpen (text :: before), objectOpen (text :: before)) := by
  unfold readLine versionOf?
  rw [commentOpen, objectOpen, hcomment, hobject]
  cases hopen : commentOpen before with
  | true => simp [gate, Except.map, State.standing]
  | false =>
    dsimp only
    cases hline : Line.ofTrimmed (trim text) with
    | blank => simp [gate, Except.map, State.standing, hcomment, hobject, hopen]
    | comment closed => simp [gate, Except.map, State.standing]
    | command symbol argument =>
      cases hblock : objectOpen before with
      | true => simp [gate, Except.map, State.standing, closesObject]
      | false =>
        have hcommand := standing_readCommand rules line symbol argument (hobject.trans hblock)
        rw [hcomment, hopen] at hcommand
        simpa using hcommand

theorem standing_readLines (rules : Rules) (line : Nat) (texts : List (List Char)) {s : State}
    {before : List (List Char)} (hcomment : s.inComment = commentOpen before)
    (hobject : s.inObject = objectOpen before) :
    (readLines rules line texts s).map State.standing =
      (gate rules.supported s.version (versions before texts)).map
        fun version => (version, commentOpen (texts.reverse ++ before),
          objectOpen (texts.reverse ++ before)) := by
  induction texts generalizing line s before with
  | nil =>
    rw [readLines, versions, gate]
    simp [Except.map, State.standing, hcomment, hobject]
  | cons text texts ih =>
    have hline := standing_readLine rules line text hcomment hobject
    rw [readLines, versions, gate_append]
    obtain ⟨e, hread, hgate⟩ | ⟨s', version, hread, hgate, hstanding⟩ := cases_of_map_eq hline
    · rw [hread, hgate]
      rfl
    · obtain ⟨rfl, hmodes⟩ := Prod.mk.inj hstanding
      obtain ⟨hcomment', hobject'⟩ := Prod.mk.inj hmodes
      rw [hread, hgate, List.reverse_cons, List.append_assoc, List.singleton_append]
      exact ih (line + 1) hcomment' hobject'

/-- Of a script, only the versions that it defines decide whether it is read. -/
theorem version_read (rules : Rules) (source : String) :
    (read rules source).map Parsed.version =
      gate rules.supported none (versions [] (lines source.toList)) := by
  have hlines := standing_readLines rules 1 (lines source.toList)
    (s := .start rules.defaultTopic) (rfl : _ = commentOpen []) rfl
  have hfinish (s : State) : s.finish.version = s.version :=
    congrArg Prod.fst s.standing_closeTrigger
  unfold read
  obtain ⟨e, hread, hgate⟩ | ⟨s, version, hread, hgate, hstanding⟩ := cases_of_map_eq hlines
  · rw [hread]
    exact hgate.symm
  · rw [hread]
    have hversion := (hfinish s).trans (congrArg Prod.fst hstanding)
    exact (congrArg Except.ok hversion).trans hgate.symm

end Parley.Script
