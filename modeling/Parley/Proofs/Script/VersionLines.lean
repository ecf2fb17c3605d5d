import Parley.Proofs.Script.Versions
import Parley.Proofs.Text.Trimming

/-!
# Lines that define versions

A line shows what is left of it when white space at its ends and then a comment behind it are taken
away. Comments that go on over lines and objects hide the lines in them. A line that is not hidden
defines a version if it shows an exclamation mark, the word `version`, perhaps a name behind white
space, an equals sign and the value. This is how a script's author sees its lines, and the reader
finds the same versions.
-/
namespace Parley.Script
open Parley.Text Parley.Unicode

/-- What a line shows: its core, cut where a comment stands apart. -/
def Shows (text shown : List Char) : Prop :=
  ∃ core, Trims text core ∧ Cut [' ', '/', '/', ' '] core shown

/-- A comment goes on behind lines, which are given latest first. -/
def InComment : List (List Char) → Prop
  | [] => False
  | text :: before => ∃ core, Trims text core ∧
    (InComment before ∨ ['/', '*'] <+: core) ∧ ¬ ['*', '/'] <:+: core

/-- A line shows a symbol and behind it, perhaps after white space, a text. -/
def Commands (line : List Char) (symbol : Char) (text : List Char) : Prop :=
  ∃ blank, Shows line (symbol :: (blank ++ text)) ∧ ∀ c ∈ blank, isWhiteSpace c = true

def OpensObject (line : List Char) : Prop :=
  ∃ rest, Commands line '>' ("object".toList ++ rest) ∧ ∀ c ∈ rest.head?, isWhiteSpace c = true

def ClosesObject (line : List Char) : Prop := ∃ rest, Commands line '<' ("object".toList ++ rest)

/-- An object goes on behind lines, which are given latest first. -/
def InObject : List (List Char) → Prop
  | [] => False
  | text :: before =>
    InObject before ∧ (InComment before ∨ ¬ ClosesObject text) ∨
      ¬ InObject before ∧ ¬ InComment before ∧ OpensObject text

/-- A line defines a version of this value, wherever it stands. -/
def DefinesVersion (line value : List Char) : Prop :=
  ∃ name rest, Commands line '!' ("version".toList ++ name ++ '=' :: rest) ∧ '=' ∉ name ∧
    (∀ c ∈ name.head?, isWhiteSpace c = true) ∧ Trims rest value

/-- A line defines a version behind the lines `before`, which are given latest first. -/
structure Declares (before : List (List Char)) (line value : List Char) : Prop where
  comment : ¬ InComment before
  object : ¬ InObject before
  version : DefinesVersion line value

/-- The values of the versions that lines define, in their order, behind the lines `before`. -/
inductive Declared : List (List Char) → List (List Char) → List (List Char) → Prop
  | nil {before} : Declared before [] []
  | version {before text texts value values} (h : Declares before text value)
    (hrest : Declared (text :: before) texts values) :
    Declared before (text :: texts) (value :: values)
  | other {before text texts values} (h : ∀ value, ¬ Declares before text value)
    (hrest : Declared (text :: before) texts values) : Declared before (text :: texts) values

theorem shows_iff {text shown : List Char} :
    Shows text shown ↔ before [' ', '/', '/', ' '] (trim text) = shown := by
  simp [Shows, trims_iff, cut_iff]

/-- A text that does not begin with the mark keeps its first character. -/
theorem before_cons {mark rest : List Char} {c : Char} (h : mark.head? ≠ some c)
    (hmark : mark ≠ []) : before mark (c :: rest) = c :: before mark rest := by
  obtain ⟨d, mark, rfl⟩ := List.exists_cons_of_ne_nil hmark
  rw [before, if_neg]
  simp_all

section Command
variable {line text argument : List Char} {symbol : Char} (hslash : symbol ≠ '/')
  (hsymbol : isWhiteSpace symbol = false)
include hslash hsymbol

/-- A line is read as a command if it shows the symbol; the argument is what it shows behind,
without white space at its ends. -/
theorem ofTrimmed_eq_command_iff : Line.ofTrimmed (trim line) = .command symbol argument ↔
    ∃ rest, Shows line (symbol :: rest) ∧ trim rest = argument := by
  have hcomment {core : List Char} {c : Char} (hstarts : ['/', c].isPrefixOf core = true)
      (rest : List Char) : before [' ', '/', '/', ' '] core ≠ symbol :: rest := by
    obtain ⟨behind, rfl⟩ := List.isPrefixOf_iff_prefix.mp hstarts
    rw [List.cons_append, before_cons (by decide) (by decide)]
    exact fun h => hslash (List.cons.inj h).1.symm
  simp only [shows_iff]
  unfold Line.ofTrimmed
  split
  · rename_i hstarts
    simp [hcomment hstarts]
  · split
    · rename_i hstarts
      simp [hcomment hstarts]
    · constructor
      · intro h
        split at h
        · cases h
        · rename_i c rest hend
          obtain ⟨rfl, rfl⟩ := Line.command.inj h
          obtain ⟨blank, hshown, hblank⟩ :=
            exists_trimEnd_append (before [' ', '/', '/', ' '] (trim line))
          rw [hend] at hshown
          exact ⟨rest ++ blank, hshown, trim_append_blank hblank rest⟩
      · rintro ⟨rest, hshown, rfl⟩
        have hend := trimEnd_append_cons hsymbol [] rest
        rw [List.nil_append, List.nil_append] at hend
        rw [hshown, hend]
        simp only [trim_trimEnd]

/-- A word behind the symbol is where the argument begins. -/
theorem Commands.ofTrimmed_eq {word : List Char} (hword : Solid word)
    (h : Commands line symbol (word ++ text)) :
    Line.ofTrimmed (trim line) = .command symbol (word ++ trimEnd text) := by
  obtain ⟨blank, hshows, hblank⟩ := h
  refine (ofTrimmed_eq_command_iff hslash hsymbol).mpr ⟨_, hshows, ?_⟩
  obtain ⟨c, rest, hfirst, hc⟩ := hword.framed.first
  obtain ⟨front, d, hlast, hd⟩ := hword.framed.last
  have hstart : trimStart (word ++ text) = word ++ text := by
    rw [hfirst, List.cons_append, trimStart_cons hc]
  rw [trim, trimStart_of_blank hblank, hstart, hlast, List.append_assoc, List.singleton_append,
    trimEnd_append_cons hd, List.append_assoc, List.singleton_append]

theorem commands_of_ofTrimmed (h : Line.ofTrimmed (trim line) = .command symbol argument) :
    ∃ blank, Commands line symbol (argument ++ blank) ∧ ∀ c ∈ blank, isWhiteSpace c = true := by
  obtain ⟨rest, hshows, rfl⟩ := (ofTrimmed_eq_command_iff hslash hsymbol).mp h
  obtain ⟨left, right, hrest, hblank⟩ := (trims_trim rest).around
  rw [List.forall_mem_append] at hblank
  refine ⟨right, ⟨left, ?_, hblank.1⟩, hblank.2⟩
  rwa [← List.append_assoc, ← hrest]

end Command

/-- White space goes on behind what begins with it. -/
theorem head?_append_of_blank {rest blank : List Char}
    (hrest : ∀ c ∈ rest.head?, isWhiteSpace c = true)
    (hblank : ∀ c ∈ blank, isWhiteSpace c = true) :
    ∀ c ∈ (rest ++ blank).head?, isWhiteSpace c = true := by
  cases rest with
  | nil => exact fun c hc => hblank c (List.mem_of_mem_head? hc)
  | cons d rest => exact hrest

theorem head?_trimEnd {rest : List Char} (h : ∀ c ∈ rest.head?, isWhiteSpace c = true) :
    ∀ c ∈ (trimEnd rest).head?, isWhiteSpace c = true := by
  obtain ⟨blank, hrest, _⟩ := exists_trimEnd_append rest
  intro c hc
  obtain ⟨behind, hbehind⟩ := List.head?_eq_some_iff.mp hc
  exact h c (by rw [hrest, hbehind]; rfl)

theorem commentOpen_iff (texts : List (List Char)) :
    commentOpen texts = true ↔ InComment texts := by
  induction texts with
  | nil => simp [commentOpen, InComment]
  | cons text before ih =>
    have hcomment : Line.ofTrimmed (trim text) = .comment false ↔
        ['/', '*'] <+: trim text ∧ ¬ ['*', '/'] <:+: trim text := by
      rw [← List.isPrefixOf_iff_prefix, ← occurs_iff, Line.ofTrimmed, Line.endsComment]
      split
      · simp [*]
      · split
        · simp [*]
        · split <;> simp [*]
    rw [commentOpen, InComment]
    simp only [trims_iff, exists_eq_left']
    cases hopen : commentOpen before with
    | true =>
      rw [hopen] at ih
      simp [← ih, Line.endsComment, ← occurs_iff]
    | false =>
      rw [hopen] at ih
      simp [← ih, hcomment]

theorem opensObject_iff {line : List Char} : OpensObject line ↔
    ∃ argument, Line.ofTrimmed (trim line) = .command '>' argument ∧
      opensObject '>' argument = true := by
  have hobject : Solid "object".toList := by decide
  have hfirst {argument : List Char} : opensObject '>' argument = true ↔
      (words argument).head? = some "object".toList := by
    simp [opensObject, String.ext_iff]
  constructor
  · rintro ⟨rest, hcommands, hrest⟩
    refine ⟨_, hcommands.ofTrimmed_eq (by decide) (by decide) hobject, hfirst.mpr ?_⟩
    rw [hobject.words_append (head?_trimEnd hrest)]
    rfl
  · rintro ⟨argument, hline, hopens⟩
    rw [hfirst] at hopens
    obtain ⟨blank, hcommands, hblank⟩ := commands_of_ofTrimmed (by decide) (by decide) hline
    obtain ⟨text, _, hargument⟩ :=
      (ofTrimmed_eq_command_iff (by decide) (by decide)).mp hline
    cases argument with
    | nil => cases hopens
    | cons c argument =>
      have hc : isWhiteSpace c = false := (trims_iff.mpr hargument).first c rfl
      obtain ⟨word, rest, hsplit, hword, hrest⟩ := exists_solid_append hc argument
      rw [hsplit, hword.words_append hrest, List.head?_cons] at hopens
      rw [hsplit, Option.some.inj hopens, List.append_assoc] at hcommands
      exact ⟨_, hcommands, head?_append_of_blank hrest hblank⟩

theorem closesObject_iff {line : List Char} : ClosesObject line ↔
    ∃ argument, Line.ofTrimmed (trim line) = .command '<' argument ∧
      closesObject '<' argument = true := by
  have hstarts {argument : List Char} : closesObject '<' argument = true ↔
      "object".toList <+: argument := by
    simp [closesObject]
  constructor
  · rintro ⟨rest, hcommands⟩
    exact ⟨_, hcommands.ofTrimmed_eq (by decide) (by decide) (by decide),
      hstarts.mpr (List.prefix_append _ _)⟩
  · rintro ⟨argument, hline, hcloses⟩
    obtain ⟨rest, rfl⟩ := hstarts.mp hcloses
    obtain ⟨blank, hcommands, _⟩ := commands_of_ofTrimmed (by decide) (by decide) hline
    rw [List.append_assoc] at hcommands
    exact ⟨_, hcommands⟩

theorem objectOpen_iff (texts : List (List Char)) : objectOpen texts = true ↔ InObject texts := by
  induction texts with
  | nil => simp [objectOpen, InObject]
  | cons text before ih =>
    rw [objectOpen, InObject, ← commentOpen_iff, ← ih, opensObject_iff, closesObject_iff]
    cases commentOpen before with
    | true => simp
    | false =>
      have hopens {symbol : Char} {argument : List Char} :
          opensObject symbol argument = true → symbol = '>' := by simp +contextual [opensObject]
      have hcloses {symbol : Char} {argument : List Char} :
          closesObject symbol argument = true → symbol = '<' := by simp +contextual [closesObject]
      cases hline : Line.ofTrimmed (trim text) with
      | blank => simp
      | comment closed => simp
      | command symbol argument =>
        cases objectOpen before with
        | true => simp; grind
        | false => simp; grind

/-- No white space belongs to an identifier. -/
theorem isWordChar_of_isWhiteSpace {c : Char} (h : isWhiteSpace c = true) :
    isWordChar c = false := by
  have htable : ∀ interval ∈ whiteSpaceTable,
      ∀ code ∈ List.range' interval.1 (interval.2 + 1 - interval.1),
        isWordChar (Char.ofNat code) = false := by decide +kernel
  obtain ⟨interval, hmem, hfirst, hlast⟩ := exists_of_within h
  have hcode := htable interval hmem c.toNat (by rw [List.mem_range'_1]; omega)
  rwa [Char.ofNat_toNat] at hcode

/-- The parts of a definition: a kind, what stands before the equals sign, and the value. -/
theorem definition_read?_eq_some_iff {text : List Char} {d : Definition} :
    Definition.read? text = some d ↔ ∃ kind name rest, text = kind ++ name ++ '=' :: rest ∧
      kind ≠ [] ∧ (∀ c ∈ kind, isWordChar c = true) ∧ '=' ∉ name ∧
      (∀ c ∈ name.head?, isWhiteSpace c = true) ∧
      d = ⟨String.ofList kind, String.ofList (trim name), trim rest⟩ := by
  constructor
  · intro h
    unfold Definition.read? at h
    simp only at h
    split at h
    · rename_i rest hrest
      split at h
      · cases h
      · rename_i hparts
        simp only [Bool.or_eq_true, List.isEmpty_iff, Bool.not_eq_true', not_or,
          Bool.not_eq_false] at hparts
        refine ⟨_, _, rest, ?_, hparts.1, fun c => List.mem_takeWhile_imp, fun hc => ?_, ?_,
          (Option.some.inj h).symm⟩
        · rw [List.append_assoc, ← hrest, List.takeWhile_append_dropWhile,
            List.takeWhile_append_dropWhile]
        · simpa using List.mem_takeWhile_imp hc
        · intro c hc
          simpa [Option.mem_def.mp hc] using hparts.2
    · cases h
  · rintro ⟨kind, name, rest, rfl, hne, hkind, hname, hhead, rfl⟩
    have hafter : ∀ c ∈ (name ++ '=' :: rest).head?, isWordChar c = false := by
      cases name with
      | nil =>
        intro c hc
        obtain rfl : '=' = c := Option.some.inj hc
        decide +kernel
      | cons d name => exact fun c hc => isWordChar_of_isWhiteSpace (hhead c hc)
    have hequals : ∀ c ∈ name, (c != '=') = true := fun c hc =>
      bne_iff_ne.mpr (ne_of_mem_of_not_mem hc hname)
    obtain ⟨c, behind, hcons⟩ : ∃ c behind, name ++ '=' :: rest = c :: behind := by
      cases name <;> exact ⟨_, _, rfl⟩
    have hc : ¬ isWordChar c = true := by simpa using hafter c (by rw [hcons]; rfl)
    have hparted : name.head?.all isWhiteSpace = true := by
      simpa [Option.all_eq_true] using hhead
    unfold Definition.read?
    simp only [List.append_assoc, List.takeWhile_append_of_pos hkind,
      List.dropWhile_append_of_pos hkind]
    rw [hcons, List.takeWhile_cons_of_neg hc, List.dropWhile_cons_of_neg hc, ← hcons,
      List.takeWhile_append_of_pos hequals, List.dropWhile_append_of_pos hequals]
    simp [hne, hparted]

/-- A definition of a version, by its text. -/
theorem definedVersion?_eq_some_iff {argument value : List Char} :
    definedVersion? '!' argument = some value ↔ ∃ name rest,
      argument = "version".toList ++ name ++ '=' :: rest ∧ '=' ∉ name ∧
        (∀ c ∈ name.head?, isWhiteSpace c = true) ∧ trim rest = value := by
  simp only [definedVersion?, if_true, Option.map_eq_some_iff, Option.filter_eq_some_iff,
    definition_read?_eq_some_iff]
  constructor
  · rintro ⟨_, ⟨⟨kind, name, rest, rfl, _, _, hname, hhead, rfl⟩, hkind⟩, rfl⟩
    obtain rfl : kind = "version".toList := by
      rw [← of_decide_eq_true hkind, String.toList_ofList]
    exact ⟨name, rest, rfl, hname, hhead, rfl⟩
  · rintro ⟨name, rest, rfl, hname, hhead, rfl⟩
    have hkind : "version".toList.all isWordChar = true := by decide +kernel
    exact ⟨_, ⟨⟨"version".toList, name, rest, rfl, by decide, List.all_eq_true.mp hkind, hname,
      hhead, rfl⟩, by simp⟩, rfl⟩

theorem definesVersion_iff {line value : List Char} :
    DefinesVersion line value ↔ versionOf? line = some value := by
  have hversion : versionOf? line = some value ↔ ∃ argument,
      Line.ofTrimmed (trim line) = .command '!' argument ∧
        definedVersion? '!' argument = some value := by
    rw [versionOf?]
    cases Line.ofTrimmed (trim line) with
    | blank => simp
    | comment closed => simp
    | command symbol argument =>
      by_cases hsymbol : symbol = '!' <;> simp [definedVersion?, hsymbol]
  rw [hversion]
  constructor
  · rintro ⟨name, rest, hcommands, hname, hhead, htrims⟩
    rw [List.append_assoc] at hcommands
    refine ⟨_, hcommands.ofTrimmed_eq (by decide) (by decide) (by decide),
      definedVersion?_eq_some_iff.mpr ⟨name, trimEnd rest, ?_, hname, hhead, ?_⟩⟩
    · rw [trimEnd_append_cons (by decide), List.append_assoc]
    · rw [trim_trimEnd, htrims.trim_eq]
  · rintro ⟨argument, hline, hdefined⟩
    obtain ⟨name, rest, rfl, hname, hhead, htrim⟩ := definedVersion?_eq_some_iff.mp hdefined
    obtain ⟨blank, hcommands, hblank⟩ := commands_of_ofTrimmed (by decide) (by decide) hline
    rw [List.append_assoc _ _ blank, List.cons_append] at hcommands
    exact ⟨name, rest ++ blank, hcommands, hname, hhead,
      trims_iff.mpr ((trim_append_blank hblank rest).trans htrim)⟩

theorem declares_iff {before : List (List Char)} {line value : List Char} :
    Declares before line value ↔ commentOpen before = false ∧ objectOpen before = false ∧
      versionOf? line = some value := by
  have hcomment := not_congr (commentOpen_iff before)
  have hobject := not_congr (objectOpen_iff before)
  rw [Bool.not_eq_true] at hcomment hobject
  rw [hcomment, hobject, ← definesVersion_iff]
  exact ⟨fun h => ⟨h.comment, h.object, h.version⟩, fun ⟨hc, ho, hv⟩ => ⟨hc, ho, hv⟩⟩

theorem declared_versions (before texts : List (List Char)) :
    Declared before texts (versions before texts) := by
  induction texts generalizing before with
  | nil => exact .nil
  | cons text texts ih =>
    rw [versions]
    cases hopen : commentOpen before || objectOpen before with
    | true =>
      refine .other (fun value h => ?_) (ih (text :: before))
      obtain ⟨hcomment, hobject, _⟩ := declares_iff.mp h
      simp [hcomment, hobject] at hopen
    | false =>
      rw [Bool.or_eq_false_iff] at hopen
      cases hversion : versionOf? text with
      | none =>
        refine .other (fun value h => ?_) (ih (text :: before))
        simp [(declares_iff.mp h).2.2] at hversion
      | some value =>
        exact .version (declares_iff.mpr ⟨hopen.1, hopen.2, hversion⟩) (ih (text :: before))

theorem Declares.unique {before : List (List Char)} {line value other : List Char}
    (h : Declares before line value) (h' : Declares before line other) : value = other :=
  Option.some.inj ((declares_iff.mp h).2.2.symm.trans (declares_iff.mp h').2.2)

theorem Declared.unique {before texts values others : List (List Char)}
    (h : Declared before texts values) (h' : Declared before texts others) : values = others := by
  induction h generalizing others with
  | nil =>
    cases h'
    rfl
  | version hfirst _ ih =>
    cases h' with
    | version hother hrest => rw [hfirst.unique hother, ih hrest]
    | other hnone _ => exact absurd hfirst (hnone _)
  | other hnone _ ih =>
    cases h' with
    | version hother _ => exact absurd hother (hnone _)
    | other _ hrest => exact ih hrest

/-- The values are those that some line defines. -/
theorem Declared.mem_iff {before texts values : List (List Char)}
    (h : Declared before texts values) (value : List Char) : value ∈ values ↔ ∃ front text back,
      texts = front ++ text :: back ∧ Declares (front.reverse ++ before) text value := by
  have hcons {before texts : List (List Char)} {text : List Char} :
      (∃ front other back, text :: texts = front ++ other :: back ∧
        Declares (front.reverse ++ before) other value) ↔
      Declares before text value ∨ ∃ front other back, texts = front ++ other :: back ∧
        Declares (front.reverse ++ text :: before) other value := by
    constructor
    · rintro ⟨front, other, back, heq, hdeclares⟩
      obtain _ | ⟨first, front⟩ := front
      · obtain ⟨rfl, rfl⟩ := List.cons.inj heq
        exact .inl hdeclares
      · obtain ⟨rfl, rfl⟩ := List.cons.inj heq
        exact .inr ⟨front, other, back, rfl, by simpa using hdeclares⟩
    · rintro (hdeclares | ⟨front, other, back, rfl, hdeclares⟩)
      · exact ⟨[], text, texts, rfl, hdeclares⟩
      · exact ⟨text :: front, other, back, rfl, by simpa using hdeclares⟩
  induction h with
  | nil => simp
  | @version before text texts first values hfirst _ ih =>
    have hvalue : value = first ↔ Declares before text value :=
      ⟨fun heq => heq ▸ hfirst, fun hdeclares => hdeclares.unique hfirst⟩
    rw [List.mem_cons, hvalue, hcons]
    exact or_congr_right ih
  | other hnone _ ih =>
    rw [hcons, or_iff_right (hnone value)]
    exact ih

/-- A last line that is empty makes no difference. -/
theorem versions_dropLastEmpty (before texts : List (List Char)) :
    versions before (dropLastEmpty texts) = versions before texts := by
  induction texts generalizing before with
  | nil => rfl
  | cons text texts ih =>
    cases texts with
    | nil =>
      rw [dropLastEmpty]
      split
      · rename_i hempty
        rw [List.isEmpty_iff.mp hempty]
        simp [versions, versionOf?, trim, trimStart, trimEnd, Line.ofTrimmed, Text.before]
      · rfl
    | cons next texts =>
      rw [dropLastEmpty, versions, versions, ih]
      simp

/-- The versions that the lines of a text define are those between its line feeds. -/
theorem versions_lines (text : List Char) :
    versions [] (lines text) = versions [] (text.splitOn '\n') := by
  rw [lines, versions_dropLastEmpty, pieces_eq_splitOn]

/-- Some line of a text defines a version that is refused. -/
def Outdates (supported : Float) (source : String) : Prop :=
  ∃ front text back value error, source.toList.splitOn '\n' = front ++ text :: back ∧
    Declares front.reverse text value ∧ Refused supported value error

theorem exists_gate_versions_iff {supported : Float} {version : Option Float} {source : String} :
    (∃ error, gate supported version (versions [] (source.toList.splitOn '\n')) = .error error) ↔
      Outdates supported source := by
  have hmem := (declared_versions [] (source.toList.splitOn '\n')).mem_iff
  simp only [List.append_nil] at hmem
  rw [exists_gate_eq_error_iff, Outdates]
  constructor
  · rintro ⟨value, hvalue, error, hrefused⟩
    obtain ⟨front, text, back, htexts, hdeclares⟩ := (hmem value).mp hvalue
    exact ⟨front, text, back, value, error, htexts, hdeclares, hrefused⟩
  · rintro ⟨front, text, back, value, error, htexts, hdeclares, hrefused⟩
    exact ⟨value, (hmem value).mpr ⟨front, text, back, htexts, hdeclares⟩, error, hrefused⟩

/-- Only a version that is refused keeps a text from being read. -/
theorem exists_read_eq_error_iff (rules : Rules) (source : String) :
    (∃ error, read rules source = .error error) ↔ Outdates rules.supported source := by
  rw [← @exists_gate_versions_iff rules.supported none, ← versions_lines,
    ← version_read rules source]
  cases read rules source <;> simp [Except.map]

end Parley.Script
