import Mathlib.Data.List.Infix
import Parley.CommandLine.Run

/-!
# The two spellings of an option

An option takes its value from the next argument, or from the same one behind an equals sign. What
the second spelling is read as is the value without the copies of the option and its equals sign
that stand in front of it. So the two spellings agree, whatever stands around them, exactly on the
values that do not begin with such a copy.
-/
namespace Parley.CommandLine

section
variable {mark : List Char}

theorem dropLead_append (times : Nat) (text : List Char) :
    dropLead mark (times + 1) (mark ++ text) = dropLead mark times text := by
  have hmark : mark.isPrefixOf (mark ++ text) = true :=
    List.isPrefixOf_iff_prefix.mpr (List.prefix_append mark text)
  rw [dropLead, if_pos hmark, List.drop_left]

theorem dropLead_of_not_prefix {text : List Char} (h : ¬ mark <+: text) (times : Nat) :
    dropLead mark times text = text := by
  cases times with
  | zero => rfl
  | succ times => rw [dropLead, if_neg (List.isPrefixOf_iff_prefix.not.mpr h)]

/-- A text that begins with copies of the mark, and does not go on with a further one. -/
structure Copied (mark : List Char) (copies : Nat) (rest text : List Char) : Prop where
  text_eq : text = (List.replicate copies mark).flatten ++ rest
  rest_free : ¬ mark <+: rest

namespace Copied
variable {copies : Nat} {rest text : List Char}

theorem zero (h : ¬ mark <+: text) : Copied mark 0 text text := ⟨rfl, h⟩

theorem succ (h : Copied mark copies rest text) :
    Copied mark (copies + 1) rest (mark ++ text) :=
  ⟨by rw [h.text_eq, List.replicate_succ, List.flatten_cons, List.append_assoc], h.rest_free⟩

theorem dropLead_eq (h : Copied mark copies rest text) {times : Nat} (htimes : copies ≤ times) :
    dropLead mark times text = rest := by
  obtain ⟨rfl, hrest⟩ := h
  induction copies generalizing times with
  | zero => exact dropLead_of_not_prefix hrest times
  | succ copies ih =>
    obtain ⟨times, rfl⟩ := Nat.exists_eq_add_of_le' htimes
    rw [List.replicate_succ, List.flatten_cons, List.append_assoc, ← Nat.add_assoc,
      dropLead_append]
    exact ih (Nat.le_add_left copies times)

/-- The length of the text is enough to drop all copies. -/
theorem withoutLead_eq (h : Copied mark copies rest text) (hmark : mark ≠ []) :
    withoutLead mark text = rest := by
  refine h.dropLead_eq ?_
  have hlength : text.length = copies * mark.length + rest.length := by simp [h.text_eq]
  have hpos : 0 < mark.length := List.length_pos_iff.mpr hmark
  exact hlength ▸ (Nat.le_mul_of_pos_right copies hpos).trans (Nat.le_add_right _ _)

end Copied

/-- Every text is some copies of the mark and a rest. -/
theorem exists_copied (hmark : mark ≠ []) (text : List Char) :
    ∃ copies rest, Copied mark copies rest text := by
  induction hlength : text.length using Nat.strong_induction_on generalizing text with
  | _ length ih =>
    by_cases h : mark <+: text
    · obtain ⟨others, rfl⟩ := h
      have hshorter : others.length < length := by
        have hpos : 0 < mark.length := List.length_pos_iff.mpr hmark
        rw [← hlength, List.length_append]
        exact Nat.lt_add_of_pos_left hpos
      obtain ⟨copies, rest, hothers⟩ := ih _ hshorter others rfl
      exact ⟨copies + 1, rest, hothers.succ⟩
    · exact ⟨0, text, .zero h⟩

/-- Something is dropped from a text exactly if it begins with the mark. -/
theorem withoutLead_eq_self_iff (hmark : mark ≠ []) {text : List Char} :
    withoutLead mark text = text ↔ ¬ mark <+: text := by
  refine ⟨fun h => ?_, fun h => dropLead_of_not_prefix h _⟩
  obtain ⟨copies, rest, hcopied⟩ := exists_copied hmark text
  rw [← h, hcopied.withoutLead_eq hmark]
  exact hcopied.rest_free

end

namespace Valued

theorem lead_ne_nil (option : Valued) : option.lead ≠ [] := by cases option <;> decide

/-- No option is the beginning of another one. -/
theorem eq_of_lead_prefix {option other : Valued} {value : List Char}
    (h : other.lead <+: option.lead ++ value) : other = option := by
  cases other <;> cases option <;> first
    | rfl
    | simp [lead, name, List.cons_prefix_cons] at h

theorem toList_assigned (option : Valued) (value : String) :
    (option.name ++ "=" ++ value).toList = option.lead ++ value.toList := by
  simp [lead]

theorem assigned_ne (option : Valued) (value : String) {other : String}
    (h : option.lead.isPrefixOf other.toList = false) : option.name ++ "=" ++ value ≠ other := by
  rintro rfl
  rw [toList_assigned, ← Bool.not_eq_true, List.isPrefixOf_iff_prefix] at h
  exact h (List.prefix_append _ _)

end Valued

namespace Argument

theorem ofString_name (option : Valued) : ofString option.name = .valued option := by
  cases option <;> decide

theorem assigned?_lead (option other : Valued) (value : List Char) :
    assigned? (option.lead ++ value) other =
      if other = option then
        some (.assigned option (String.ofList (withoutLead option.lead value)))
      else none := by
  by_cases h : other = option
  · subst h
    have hprefix : other.lead.isPrefixOf (other.lead ++ value) = true :=
      List.isPrefixOf_iff_prefix.mpr (List.prefix_append _ _)
    obtain ⟨copies, rest, hvalue⟩ := exists_copied other.lead_ne_nil value
    rw [assigned?, if_pos hprefix, if_pos rfl, hvalue.withoutLead_eq other.lead_ne_nil,
      hvalue.succ.withoutLead_eq other.lead_ne_nil]
  · have hprefix : ¬ other.lead.isPrefixOf (option.lead ++ value) = true := fun hprefix =>
      h (Valued.eq_of_lead_prefix (List.isPrefixOf_iff_prefix.mp hprefix))
    rw [assigned?, if_neg hprefix, if_neg h]

/-- The arguments that are known as a whole, and not by what they begin with. -/
def fixed : List String :=
  ["-h", "--help", "-V", "--version", "--color", "--no-color", "-s", "--script", "-t", "--topic",
    "-p", "--previous", "--"]

theorem ofString_assigned (option : Valued) (value : String) :
    ofString (option.name ++ "=" ++ value) =
      .assigned option (String.ofList (withoutLead option.lead value.toList)) := by
  have hfixed : ∀ other ∈ fixed, option.name ++ "=" ++ value ≠ other := by
    intro other hother
    have hlead : ∀ other ∈ fixed, option.lead.isPrefixOf other.toList = false := by
      cases option <;> decide
    exact option.assigned_ne value (hlead other hother)
  have hfind : [Valued.script, .topic, .previous].findSome?
      (assigned? (option.name ++ "=" ++ value).toList) =
        some (.assigned option (String.ofList (withoutLead option.lead value.toList))) := by
    rw [Valued.toList_assigned]
    cases option <;> simp [assigned?_lead]
  simp only [fixed, List.forall_mem_cons] at hfixed
  simp only [ofString, hfixed, hfind, decide_false, Bool.or_self, Bool.false_eq_true, if_false]

end Argument

/-- Arguments in which no message, no separator and no error begins: options that are on their own
or have a value, up to one that asks for help or for the version. -/
inductive Leading : List String → Prop
  | nil : Leading []
  | color {argument : String} {rest : List String} (hcolor : argument ∈ ["--color", "--no-color"])
      (hrest : Leading rest) : Leading (argument :: rest)
  | valued {argument : String} {rest : List String}
      (hvalued : argument ∈ ["-s", "--script", "-t", "--topic", "-p", "--previous"])
      (value : String) (hrest : Leading rest) : Leading (argument :: value :: rest)
  | assigned (option : Valued) (value : String) {rest : List String} (hrest : Leading rest) :
      Leading ((option.name ++ "=" ++ value) :: rest)
  | answered {argument : String} (hanswered : argument ∈ ["-h", "--help", "-V", "--version"])
      (rest : List String) : Leading (argument :: rest)

theorem readArguments_name (s : Settings) (option : Valued) (value : String)
    (rest : List String) :
    readArguments s (option.name :: value :: rest) = readArguments (s.set value option) rest := by
  rw [readArguments, Argument.ofString_name]

theorem readArguments_assigned (s : Settings) (option : Valued) (value : String)
    (rest : List String) :
    readArguments s ((option.name ++ "=" ++ value) :: rest) =
      readArguments (s.set (String.ofList (withoutLead option.lead value.toList)) option) rest := by
  rw [readArguments, Argument.ofString_assigned]

/-- After such arguments, what is read alike with all settings makes no difference. -/
theorem Leading.readArguments_append {before first second : List String} (h : Leading before)
    (heq : ∀ s, readArguments s first = readArguments s second) (s : Settings) :
    readArguments s (before ++ first) = readArguments s (before ++ second) := by
  induction h generalizing s with
  | nil => exact heq s
  | color hcolor _ ih =>
    rw [List.cons_append, List.cons_append, readArguments, readArguments]
    simp only [List.mem_cons, List.not_mem_nil, or_false] at hcolor
    obtain rfl | rfl := hcolor
    · exact ih _
    · exact ih _
  | valued hvalued value _ ih =>
    simp only [List.cons_append]
    rw [readArguments, readArguments]
    simp only [List.mem_cons, List.not_mem_nil, or_false] at hvalued
    obtain rfl | rfl | rfl | rfl | rfl | rfl := hvalued <;> exact ih _
  | assigned option value _ ih =>
    rw [List.cons_append, List.cons_append, readArguments_assigned, readArguments_assigned]
    exact ih _
  | answered hanswered rest =>
    rw [List.cons_append, List.cons_append, readArguments, readArguments]
    simp only [List.mem_cons, List.not_mem_nil, or_false] at hanswered
    obtain rfl | rfl | rfl | rfl := hanswered <;> rfl

theorem Settings.set_injective (s : Settings) (option : Valued) {first second : String}
    (h : s.set first option = s.set second option) : first = second := by
  cases option <;> simpa [Settings.set] using h

theorem readArguments_word (s : Settings) :
    readArguments s ["x"] = .ok (.run (s.withMessage ["x"])) := by
  have hword : Argument.ofString "x" = .word := by decide
  rw [readArguments, hword]

/-- What an option was set to can be told from the settings that a message behind it is read with.
-/
theorem eq_of_readArguments_eq {s : Settings} {option : Valued} {first second : String}
    (h : readArguments (s.set first option) ["x"] = readArguments (s.set second option) ["x"]) :
    first = second := by
  rw [readArguments_word, readArguments_word, Except.ok.injEq, Request.run.injEq] at h
  refine s.set_injective option ?_
  have hmessage := congrArg (fun t : Settings => { t with message := s.message }) h
  cases option <;> exact hmessage

/-- An option that is given together with its value asks for the same as the option followed by the
value, or is the same error, whatever the arguments around it are, exactly if the value does not
begin with the option and its equals sign. If it begins with copies of them, then what is asked for
is the same as for the option followed by what is left without these copies. -/
theorem spellings_agree_iff (around : Surroundings) (option : Valued) (value : String) :
    ((∀ before after, Leading before →
        request around (before ++ (option.name ++ "=" ++ value) :: after) =
          request around (before ++ option.name :: value :: after)) ↔
      ¬ option.lead <+: value.toList) ∧
    ∀ copies rest, Copied option.lead copies rest value.toList →
      ∀ before after, Leading before →
        request around (before ++ (option.name ++ "=" ++ value) :: after) =
          request around (before ++ option.name :: String.ofList rest :: after) := by
  have hcopies : ∀ copies rest, Copied option.lead copies rest value.toList →
      ∀ before after, Leading before →
        request around (before ++ (option.name ++ "=" ++ value) :: after) =
          request around (before ++ option.name :: String.ofList rest :: after) := by
    intro copies rest hvalue before after hbefore
    refine hbefore.readArguments_append (fun s => ?_) _
    rw [readArguments_assigned, readArguments_name, hvalue.withoutLead_eq option.lead_ne_nil]
  refine ⟨⟨fun hagree => ?_, fun hfree before after hbefore => ?_⟩, hcopies⟩
  · have hx := hagree [] ["x"] .nil
    simp only [request, List.nil_append, readArguments_assigned, readArguments_name] at hx
    have hsame := congrArg String.toList (eq_of_readArguments_eq hx)
    rw [String.toList_ofList] at hsame
    exact (withoutLead_eq_self_iff option.lead_ne_nil).mp hsame
  · have hvalue := hcopies 0 value.toList (.zero hfree) before after hbefore
    rwa [String.ofList_toList] at hvalue

/-- The spellings agree on a value that holds the option further on, behind another script whose
name looks like a separator. -/
theorem spellings_agree_iff_within :
    Leading ["--color", "-s", "--"] ∧ ¬ Valued.topic.lead <+: "a--topic=b".toList ∧
      request ⟨Directory.read [], .ok "", false⟩
        ["--color", "-s", "--", "--topic=a--topic=b", "hi"] =
        request ⟨Directory.read [], .ok "", false⟩
          ["--color", "-s", "--", "--topic", "a--topic=b", "hi"] := by
  have hbefore : Leading ["--color", "-s", "--"] :=
    .color (by decide) (.valued (by decide) "--" .nil)
  have hfree : ¬ Valued.topic.lead <+: "a--topic=b".toList := by decide
  exact ⟨hbefore, hfree, (spellings_agree_iff ⟨Directory.read [], .ok "", false⟩ .topic
    "a--topic=b").1.mpr hfree ["--color", "-s", "--"] ["hi"] hbefore⟩

/-- They do not agree on a topic whose name begins with the option. -/
theorem spellings_disagree :
    Leading [] ∧
      request ⟨Directory.read [], .ok "", false⟩ ["--topic=--topic=random", "x"] ≠
        request ⟨Directory.read [], .ok "", false⟩ ["--topic", "--topic=random", "x"] :=
  ⟨.nil, by decide⟩

end Parley.CommandLine
