import Parley.Proofs.Script.Concatenation
import Parley.Proofs.Text.Trimming

/-!
# Writing scripts

A script can be written as blocks, each for one topic with its edges and its triggers. Where names
are words and texts are trimmed and free of line feeds and comments, such a script is read without
warnings, and its directives are those that the blocks spell, in their order.
-/
namespace Parley.Script
open Parley.Text Parley.Unicode

/-- A trigger as a block writes it, whose topic is that of the block. -/
structure Stanza where
  pattern : String
  previous : Option String
  responses : List String
  deriving DecidableEq

structure Block where
  name : String
  includes : List String
  inherits : List String
  stanzas : List Stanza
  deriving DecidableEq

namespace Stanza

def texts (t : Stanza) : List String := t.pattern :: (t.previous.toList ++ t.responses)

def lines (t : Stanza) : List String :=
  ("+ " ++ t.pattern) :: (t.previous.toList.map ("% " ++ ·) ++ t.responses.map ("- " ++ ·))

def inTopic (t : Stanza) (topic : String) : TriggerText :=
  ⟨topic, t.pattern, t.previous, t.responses⟩

end Stanza

namespace Block

/-- A list of names behind its keyword, which is left out with an empty list. -/
def listed (keyword : String) (names : List String) : List String :=
  if names.isEmpty then [] else keyword :: names

def headerWords (block : Block) : List String :=
  "topic" :: block.name :: (listed "includes" block.includes ++ listed "inherits" block.inherits)

def header (block : Block) : String := " ".intercalate block.headerWords

def lines (block : Block) : List String :=
  ("> " ++ block.header) :: (block.stanzas.flatMap Stanza.lines ++ ["< topic"])

def directives (block : Block) : List Directive :=
  .topic block.name block.includes block.inherits ::
    block.stanzas.map fun t => .trigger (t.inTopic block.name)

/-- Names are words and no keywords, texts lie on one line without white space at their ends, and
nothing looks like a comment at the end of a line. -/
structure Plain (block : Block) : Prop where
  name : Solid block.name.toList
  names : ∀ other ∈ block.includes ++ block.inherits,
    Solid other.toList ∧ other ≠ "includes" ∧ other ≠ "inherits"
  texts : ∀ t ∈ block.stanzas, ∀ text ∈ t.texts,
    '\n' ∉ text.toList ∧ trim text.toList = text.toList
  comments : ∀ line ∈ block.lines, occurs [' ', '/', '/', ' '] line.toList = false

instance (block : Block) : Decidable block.Plain :=
  decidable_of_iff
    (Solid block.name.toList ∧
      (∀ other ∈ block.includes ++ block.inherits,
        Solid other.toList ∧ other ≠ "includes" ∧ other ≠ "inherits") ∧
      (∀ t ∈ block.stanzas, ∀ text ∈ t.texts,
        '\n' ∉ text.toList ∧ trim text.toList = text.toList) ∧
      ∀ line ∈ block.lines, occurs [' ', '/', '/', ' '] line.toList = false)
    ⟨fun ⟨name, names, texts, comments⟩ => ⟨name, names, texts, comments⟩,
      fun h => ⟨h.name, h.names, h.texts, h.comments⟩⟩

end Block

/-- The lines of blocks, one block after the other. -/
def scriptLines (blocks : List Block) : List String := blocks.flatMap Block.lines

/-- Whether a text is lines with a line feed between them, or with one after each. -/
def IsTextOf (source : String) (lines : List String) : Prop :=
  source = "\n".intercalate lines ∨ source = String.join (lines.map (· ++ "\n"))

/-- Puts names in front of one of the lists. -/
def Relatives.add (relatives : Relatives) (names : List String) : Relation → Relatives
  | .includes => { relatives with includes := names ++ relatives.includes }
  | .inherits => { relatives with inherits := names ++ relatives.inherits }

/-- A line that begins with a symbol and a space is the command of that symbol. -/
theorem ofTrimmed_trim {symbol : Char} (hsymbol : isWhiteSpace symbol = false) {text : List Char}
    (htrim : trim text = text)
    (hcomment : occurs [' ', '/', '/', ' '] (symbol :: ' ' :: text) = false) :
    Line.ofTrimmed (trim (symbol :: ' ' :: text)) = .command symbol text := by
  have hframed : Framed [symbol] := (Solid.mk (by simp) (by simpa using hsymbol)).framed
  by_cases hne : text = []
  · subst hne
    have hspace : isWhiteSpace ' ' = true := by decide
    have htrimmed : trim [symbol, ' '] = [symbol] := by
      rw [trim, trimStart_cons hsymbol, trimEnd]
      simp [hspace, hsymbol]
    have hcut : before [' ', '/', '/', ' '] [symbol] = [symbol] := by simp [before]
    rw [htrimmed, Line.ofTrimmed, hcut, hframed.trimEnd_eq]
    simp [htrim]
  · have hline : Framed (symbol :: ' ' :: text) :=
      hframed.append [' '] (framed_of_trim_eq htrim hne)
    have hstart : trimStart ([' '] ++ text) = trimStart text :=
      trimStart_of_blank (List.forall_mem_singleton.mpr (by decide)) text
    have hargument : trim (' ' :: text) = text := (congrArg trimEnd hstart).trans htrim
    rw [hline.trim_eq, Line.ofTrimmed, before_eq_self hcomment, hline.trimEnd_eq]
    simp [hargument]

/-- Names that no keyword interrupts belong to the list that is open. -/
theorem readRelatives_append (relation : Relation) {names : List String}
    (h : ∀ other ∈ names, other ≠ "includes" ∧ other ≠ "inherits") (rest : List String) :
    readRelatives (some relation) (names ++ rest) =
      (readRelatives (some relation) rest).add names relation := by
  induction names with
  | nil => cases relation <;> rfl
  | cons name names ih =>
    obtain ⟨⟨hincludes, hinherits⟩, hnames⟩ := List.forall_mem_cons.mp h
    rw [List.cons_append, readRelatives, if_neg hincludes, if_neg hinherits, ih hnames]
    cases relation <;> rfl

/-- Names behind their keywords are read as the lists that they were. -/
theorem readRelatives_listed {includes inherits : List String}
    (h : ∀ other ∈ includes ++ inherits, other ≠ "includes" ∧ other ≠ "inherits") :
    readRelatives none (Block.listed "includes" includes ++ Block.listed "inherits" inherits) =
      ⟨includes, inherits, []⟩ := by
  obtain ⟨hincludes, hinherits⟩ := List.forall_mem_append.mp h
  have hlast (relation : Option Relation) :
      readRelatives relation (Block.listed "inherits" inherits) = ⟨[], inherits, []⟩ := by
    cases inherits with
    | nil => rfl
    | cons name names =>
      have happend := readRelatives_append .inherits hinherits []
      rw [List.append_nil] at happend
      exact happend.trans (by simp [readRelatives, Relatives.add])
  cases includes with
  | nil => exact hlast none
  | cons name names =>
    have happend := readRelatives_append .includes hincludes (Block.listed "inherits" inherits)
    rw [hlast] at happend
    exact happend.trans (by simp [Relatives.add])

/-- The state after directives were noted. -/
def State.addAll (s : State) (directives : List Directive) : State :=
  { s with directives := directives.reverse ++ s.directives }

theorem State.addAll_addAll (s : State) (first second : List Directive) :
    (s.addAll first).addAll second = s.addAll (first ++ second) := by
  simp [addAll]

section Reading
variable (rules : Rules) {s : State}

theorem readLine_command (symbol : Char) (hcomment : s.inComment = false)
    (hobject : s.inObject = false) {sign text : String} (hsign : sign.toList = [symbol, ' '])
    (hsymbol : isWhiteSpace symbol = false) (htrim : trim text.toList = text.toList)
    (hcut : occurs [' ', '/', '/', ' '] (sign ++ text).toList = false) (line : Nat) :
    readLine rules line (sign ++ text).toList s = readCommand rules line symbol text.toList s := by
  rw [String.toList_append, hsign] at hcut ⊢
  have hline := ofTrimmed_trim hsymbol htrim hcut
  simp only [List.cons_append, List.nil_append]
  simp [readLine, hcomment, hobject, hline]

/-- Responses are added to the trigger that is open. -/
theorem readLines_responses {t : TriggerText} (hcomment : s.inComment = false)
    (hobject : s.inObject = false) (hcurrent : s.current = some t) {responses : List String}
    (htrim : ∀ text ∈ responses, trim text.toList = text.toList)
    (hcut : ∀ text ∈ responses, occurs [' ', '/', '/', ' '] ("- " ++ text).toList = false)
    (line : Nat) :
    readLines rules line ((responses.map ("- " ++ ·)).map String.toList) s =
      .ok { s with current := some { t with responses := t.responses ++ responses } } := by
  induction responses generalizing line s t with
  | nil =>
    obtain ⟨version, directives, warnings, topic, current, inComment, inObject⟩ := s
    simp only at hcurrent
    simp [readLines, hcurrent]
  | cons text responses ih =>
    have hline : readLine rules line ("- " ++ text).toList s =
        .ok { s with current := some { t with responses := t.responses ++ [text] } } := by
      rw [readLine_command rules '-' hcomment hobject rfl (by decide)
        (htrim text List.mem_cons_self) (hcut text List.mem_cons_self)]
      simp [readCommand, hcurrent]
    rw [List.map_cons, List.map_cons, readLines, hline]
    refine (ih (s := { s with current := some { t with responses := t.responses ++ [text] } })
      hcomment hobject rfl (fun other hother => htrim other (List.mem_cons_of_mem _ hother))
      (fun other hother => hcut other (List.mem_cons_of_mem _ hother)) (line + 1)).trans ?_
    simp

/-- The lines of one trigger close the one before and leave it open itself. -/
theorem readLines_stanza (hcomment : s.inComment = false) (hobject : s.inObject = false)
    {t : Stanza} (htrim : ∀ text ∈ t.texts, trim text.toList = text.toList)
    (hcut : ∀ text ∈ t.lines, occurs [' ', '/', '/', ' '] text.toList = false) (line : Nat) :
    readLines rules line (t.lines.map String.toList) s =
      .ok { s.closeTrigger with current := some (t.inTopic s.topic) } := by
  obtain ⟨pattern, previous, responses⟩ := t
  simp only [Stanza.texts, Stanza.lines, List.forall_mem_cons, List.forall_mem_append,
    List.forall_mem_map] at htrim hcut
  obtain ⟨hpattern, hprevious, hresponses⟩ := htrim
  obtain ⟨hpattern', hprevious', hresponses'⟩ := hcut
  let opened (previous : Option String) : State :=
    { s with
      directives := (s.current.map Directive.trigger).toList ++ s.directives
      current := some ⟨s.topic, pattern, previous, []⟩ }
  have hopen : readLine rules line ("+ " ++ pattern).toList s = .ok (opened none) := by
    rw [readLine_command rules '+' hcomment hobject rfl (by decide) hpattern hpattern']
    simp [readCommand, State.closeTrigger_eq, opened]
  have hresponse (previous : Option String) := readLines_responses rules
    (s := opened previous) hcomment hobject rfl hresponses hresponses'
  rw [State.closeTrigger_eq]
  simp only [Stanza.lines, List.map_cons, List.map_append, readLines, hopen]
  cases previous with
  | none => exact hresponse none (line + 1)
  | some condition =>
    have hcondition : readLine rules (line + 1) ("% " ++ condition).toList (opened none) =
        .ok (opened (some condition)) := by
      rw [readLine_command rules '%' (s := opened none) hcomment hobject rfl (by decide)
        (hprevious condition (by simp)) (hprevious' condition (by simp))]
      simp [readCommand, opened]
    exact (congrArg (· >>= _) hcondition).trans (hresponse (some condition) (line + 1 + 1))

/-- The lines of triggers note all of them, once the last one is closed. -/
theorem readLines_stanzas (hcomment : s.inComment = false) (hobject : s.inObject = false)
    {stanzas : List Stanza}
    (htrim : ∀ t ∈ stanzas, ∀ text ∈ t.texts, trim text.toList = text.toList)
    (hcut : ∀ t ∈ stanzas, ∀ text ∈ t.lines, occurs [' ', '/', '/', ' '] text.toList = false)
    (line : Nat) :
    ∃ s', readLines rules line ((stanzas.flatMap Stanza.lines).map String.toList) s = .ok s' ∧
      s'.closeTrigger =
        s.closeTrigger.addAll (stanzas.map fun t => .trigger (t.inTopic s.topic)) := by
  induction stanzas generalizing line s with
  | nil => exact ⟨s, rfl, rfl⟩
  | cons t stanzas ih =>
    obtain ⟨htrim', htrims⟩ := List.forall_mem_cons.mp htrim
    obtain ⟨hcut', hcuts⟩ := List.forall_mem_cons.mp hcut
    have hfirst := readLines_stanza rules hcomment hobject htrim' hcut' line
    obtain ⟨s', hread, hclose⟩ := ih
      (s := { s.closeTrigger with current := some (t.inTopic s.topic) })
      (by rw [State.closeTrigger_eq]; exact hcomment) (by rw [State.closeTrigger_eq]; exact hobject)
      htrims hcuts (line + (t.lines.map String.toList).length)
    refine ⟨s', ?_, hclose.trans ?_⟩
    · rw [List.flatMap_cons, List.map_append, readLines_append, hfirst]
      exact hread
    · simp [State.closeTrigger_eq, State.addAll]

theorem Block.Plain.solid {block : Block} (h : block.Plain) :
    ∀ word ∈ block.headerWords, Solid word.toList := by
  have hlisted {keyword : String} {names : List String} (hkeyword : Solid keyword.toList)
      (hnames : ∀ other ∈ names, Solid other.toList) :
      ∀ word ∈ listed keyword names, Solid word.toList := by
    rw [listed]
    split
    · simp
    · exact List.forall_mem_cons.mpr ⟨hkeyword, hnames⟩
  obtain ⟨hincludes, hinherits⟩ :=
    List.forall_mem_append.mp fun other hother => (h.names other hother).1
  refine List.forall_mem_cons.mpr ⟨by decide, List.forall_mem_cons.mpr ⟨h.name, ?_⟩⟩
  exact List.forall_mem_append.mpr
    ⟨hlisted (by decide) hincludes, hlisted (by decide) hinherits⟩

theorem Block.toList_header (block : Block) :
    block.header.toList = [' '].intercalate (block.headerWords.map String.toList) :=
  String.toList_intercalate

theorem openBlock_header {block : Block} (h : block.Plain) (hcurrent : s.current = none)
    (line : Nat) : openBlock rules line block.header.toList s =
      { s.add (.topic block.name block.includes block.inherits) with topic := block.name } := by
  have hclose : s.closeTrigger = s := by simp [State.closeTrigger, hcurrent]
  have hwords : (words block.header.toList).map String.ofList = block.headerWords := by
    rw [Block.toList_header, words_intercalate (by simpa using h.solid)]
    simp
  have hrelatives := readRelatives_listed fun other hother => (h.names other hother).2
  rw [openBlock, hclose, hwords]
  simp [Block.headerWords, openTopic, hrelatives]

/-- The lines of a block leave a reader at rest where it was, with the directives of the block. -/
theorem readLines_block {block : Block} (h : block.Plain) (hrest : s.AtRest rules) (line : Nat) :
    readLines rules line (block.lines.map String.toList) s = .ok (s.addAll block.directives) := by
  obtain ⟨hheader, hlines⟩ := List.forall_mem_cons.mp h.comments
  obtain ⟨hstanzas, hend⟩ := List.forall_mem_append.mp hlines
  have htrim : trim block.header.toList = block.header.toList := by
    rw [Block.toList_header]
    refine (framed_intercalate (by simp [Block.headerWords]) ?_).trim_eq
    simpa using fun word hword => (h.solid word hword).framed
  let entered : State :=
    { s.add (.topic block.name block.includes block.inherits) with topic := block.name }
  have henter : readLine rules line ("> " ++ block.header).toList s = .ok entered := by
    rw [readLine_command rules '>' hrest.inComment hrest.inObject rfl (by decide) htrim hheader]
    exact congrArg Except.ok (openBlock_header rules h hrest.current line)
  obtain ⟨s', hread, hclose⟩ := readLines_stanzas rules (s := entered) hrest.inComment
    hrest.inObject (fun t ht text htext => (h.texts t ht text htext).2)
    (fun t ht text htext => hstanzas text (List.mem_flatMap.mpr ⟨t, ht, htext⟩)) (line + 1)
  have hclosed : s'.closeTrigger = { s.addAll block.directives with topic := block.name } := by
    rw [hclose]
    simp [entered, State.closeTrigger_eq, State.add, State.addAll, Block.directives, hrest.current]
  have hleave (line : Nat) : readLine rules line "< topic".toList s' =
      .ok (s.addAll block.directives) := by
    have hmodes := hclosed
    rw [State.closeTrigger_eq, State.mk.injEq] at hmodes
    obtain ⟨_, _, _, _, _, hcomment, hobject⟩ := hmodes
    have hcommand : readLine rules line ("< " ++ "topic").toList s' =
        readCommand rules line '<' "topic".toList s' :=
      readLine_command rules '<' (hcomment.trans hrest.inComment) (hobject.trans hrest.inObject) rfl
        (by decide) (by decide) (by decide) line
    refine hcommand.trans ?_
    simp [readCommand, hclosed, State.addAll, ← hrest.topic]
  rw [Block.lines, List.map_cons, List.map_append, readLines, henter]
  refine (readLines_append rules (line + 1) _ _ entered).trans ?_
  rw [hread]
  exact (congrArg (· >>= _) (hleave _)).trans rfl

theorem readLines_blocks {blocks : List Block} (h : ∀ block ∈ blocks, block.Plain)
    (hrest : s.AtRest rules) (line : Nat) :
    readLines rules line ((scriptLines blocks).map String.toList) s =
      .ok (s.addAll (blocks.flatMap Block.directives)) := by
  induction blocks generalizing line s with
  | nil => rfl
  | cons block blocks ih =>
    obtain ⟨hblock, hblocks⟩ := List.forall_mem_cons.mp h
    rw [scriptLines, List.flatMap_cons, List.map_append, readLines_append,
      readLines_block rules hblock hrest]
    have hrest' : (s.addAll block.directives).AtRest rules :=
      ⟨hrest.topic, hrest.current, hrest.inComment, hrest.inObject⟩
    refine (ih hblocks hrest' _).trans ?_
    rw [State.addAll_addAll, List.flatMap_cons]

end Reading

/-- A line of a block is not empty and holds no line feed. -/
theorem Block.Plain.not_mem {block : Block} (h : block.Plain) :
    ∀ line ∈ block.lines, '\n' ∉ line.toList ∧ line.toList ≠ [] := by
  have hline {sign text : String} (hsign : '\n' ∉ sign.toList) (hne : sign.toList ≠ [])
      (htext : '\n' ∉ text.toList) :
      '\n' ∉ (sign ++ text).toList ∧ (sign ++ text).toList ≠ [] := by
    rw [String.toList_append]
    exact ⟨fun hmem => (List.mem_append.mp hmem).elim hsign htext,
      List.append_ne_nil_of_left_ne_nil hne _⟩
  have hheader : '\n' ∉ block.header.toList := by
    rw [toList_header]
    intro hmem
    obtain hmem | ⟨word, hword, hmem⟩ := mem_intercalate hmem
    · exact absurd hmem (by decide)
    · obtain ⟨name, hname, rfl⟩ := List.mem_map.mp hword
      exact absurd ((h.solid name hname).visible _ hmem) (by decide)
  refine List.forall_mem_cons.mpr ⟨hline (by decide) (by decide) hheader,
    List.forall_mem_append.mpr ⟨?_, by simp⟩⟩
  rintro line hmem
  obtain ⟨t, ht, hmem⟩ := List.mem_flatMap.mp hmem
  have htexts := fun text htext => (h.texts t ht text htext).1
  simp only [Stanza.texts, List.forall_mem_cons, List.forall_mem_append] at htexts
  obtain ⟨hpattern, hprevious, hresponses⟩ := htexts
  simp only [Stanza.lines, List.mem_cons, List.mem_append, List.mem_map] at hmem
  obtain rfl | ⟨text, htext, rfl⟩ | ⟨text, htext, rfl⟩ := hmem
  · exact hline (by decide) (by decide) hpattern
  · exact hline (by decide) (by decide) (hprevious text htext)
  · exact hline (by decide) (by decide) (hresponses text htext)

theorem lines_of_isTextOf {source : String} {blocks : List Block}
    (h : ∀ block ∈ blocks, block.Plain) (hsource : IsTextOf source (scriptLines blocks)) :
    lines source.toList = (scriptLines blocks).map String.toList := by
  have hlines : ∀ line ∈ (scriptLines blocks).map String.toList, '\n' ∉ line ∧ line ≠ [] := by
    rw [List.forall_mem_map]
    intro line hline
    obtain ⟨block, hblock, hline⟩ := List.mem_flatMap.mp hline
    exact (h block hblock).not_mem line hline
  obtain rfl | rfl := hsource
  · rw [String.toList_intercalate]
    exact lines_intercalate hlines
  · have hjoin : (String.join ((scriptLines blocks).map (· ++ "\n"))).toList =
        ((scriptLines blocks).map String.toList).flatMap (· ++ ['\n']) := by
      simp [String.toList_join, List.flatMap_map]
    rw [hjoin]
    exact lines_flatMap fun line hline => (hlines line hline).1

/-- A script that was written as blocks is read as what the blocks spell. -/
theorem read_of_isTextOf {rules : Rules} {source : String} {blocks : List Block}
    (h : ∀ block ∈ blocks, block.Plain) (hsource : IsTextOf source (scriptLines blocks)) :
    read rules source = .ok ⟨none, blocks.flatMap Block.directives, []⟩ := by
  refine read_eq_ok_iff.mpr
    ⟨(State.start rules.defaultTopic).addAll (blocks.flatMap Block.directives), ?_, ?_⟩
  · rw [lines_of_isTextOf h hsource]
    exact readLines_blocks rules h ⟨rfl, rfl, rfl, rfl⟩ 1
  · simp [State.finish, State.closeTrigger, State.addAll, State.start]

end Parley.Script
