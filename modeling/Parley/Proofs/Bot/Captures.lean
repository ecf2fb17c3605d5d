import Parley.Proofs.Alignment.Captures
import Parley.Proofs.Bot.BestMatch
import Parley.Proofs.Bot.Identity

/-!
# Captures are numbered by the pattern

A match tells one item for each token of its pattern that captures, in the order of the tokens.
Three places keep items from being empty: a group is read with phrases that have words, the
definition of an array leaves out entries without words, and so does the reading of a message with
runs that have no letter or number.
-/
namespace Parley

namespace Arrays

theorem worded_empty : Arrays.empty.Worded := by
  simp [Worded, empty]

theorem worded_phrases (entries : List String) : Phrase.Worded (phrases entries) := by
  intro phrase hphrase
  obtain ⟨_, hne⟩ := List.mem_filter.mp hphrase
  simpa using hne

theorem mem_setRow {name : String} {phrases : List Phrase} {rows : List (String × List Phrase)}
    {row : String × List Phrase} (h : row ∈ setRow name phrases rows) :
    row = (name, phrases) ∨ row ∈ rows := by
  induction rows with
  | nil => exact .inl (List.mem_singleton.mp h)
  | cons first rest ih =>
    rw [setRow] at h
    split_ifs at h
    · obtain hrow | hrest := List.mem_cons.mp h
      · exact .inl hrow
      · exact .inr (List.mem_cons_of_mem _ hrest)
    · obtain hfirst | hrest := List.mem_cons.mp h
      · exact .inr (hfirst ▸ List.mem_cons_self)
      · exact (ih hrest).imp_right (List.mem_cons_of_mem _)

theorem Worded.define {arrays : Arrays} (h : arrays.Worded) (name : String)
    (entries : List String) : (arrays.define name entries).Worded := by
  intro row hrow
  obtain rfl | hrow := mem_setRow hrow
  · exact worded_phrases entries
  · exact h row hrow

end Arrays

namespace Bot

theorem worded_apply {a : Applied} (directive : Script.Directive) (h : a.bot.arrays.Worded) :
    (apply a directive).bot.arrays.Worded := by
  cases directive with
  | array name entries => exact h.define name entries
  | topic name includes inherits =>
    have hedges (relation : Relation) (names : List String) (b : Bot) (hb : b.arrays.Worded) :
        (names.foldl (·.addEdge relation name ·) b).arrays.Worded :=
      List.foldlRecOn (motive := fun b : Bot => b.arrays.Worded) names _ hb fun _ hb _ _ => hb
    exact hedges .inherits inherits _ (hedges .includes includes _ h)
  | trigger t => rwa [apply, arrays_register]

theorem worded_step {b : Bot} (operation : Operation) (h : b.arrays.Worded) :
    (b.step operation).arrays.Worded := by
  cases operation with
  | register topic text responses previous =>
    rwa [step, arrays_register]
  | addEdge relation topic other => exact h
  | defineArray name entries => exact h.define name entries
  | load source =>
    exact load_induction (P := fun b => b.arrays.Worded) source h
      fun _ directive ha => worded_apply directive ha
  | sort => exact h

/-- After any run of operations the entries of all arrays have words. -/
theorem worded_run (options : Options) (operations : List Operation) :
    ((new options).run operations).arrays.Worded :=
  List.foldlRecOn (motive := fun b : Bot => b.arrays.Worded) operations step Arrays.worded_empty
    fun _ hb operation _ => worded_step operation hb

end Bot

theorem exists_nth?_iff {items : List String} {n : Nat} :
    (∃ item, nth? items n = some item) ↔ 1 ≤ n ∧ n ≤ items.length := by
  cases n with
  | zero => simp [nth?]
  | succ n =>
    rw [nth?, ← Option.isSome_iff_exists, isSome_getElem?]
    omega

/-- The items that a pattern captures from a text: the texts of blocks of its words, as many as the
pattern has tokens that capture, and none of them empty. -/
structure Pattern.Itemizes (pattern : Pattern) (text : String) (items : List String) : Prop where
  yields : pattern.Yields (Message.read text) items
  length_eq : items.length = pattern.captureCount
  ne_empty : ∀ item ∈ items, item ≠ ""

theorem Pattern.Itemizes.exists_nth?_iff {pattern : Pattern} {text : String} {items : List String}
    (h : pattern.Itemizes text items) (n : Nat) :
    (∃ item, nth? items n = some item) ↔ 1 ≤ n ∧ n ≤ pattern.captureCount := by
  rw [Parley.exists_nth?_iff, h.length_eq]

theorem Pattern.itemizes_of_align {arrays : Arrays} {pattern : Pattern} {raw text : String}
    {items : List String} (hread : Pattern.read raw = .ok pattern) (harrays : arrays.Worded)
    (h : pattern.align arrays (Message.read text) = some items) : pattern.Itemizes text items := by
  have hyields := yields_of_align h (worded_of_read hread) harrays
  exact ⟨hyields, hyields.length_eq, hyields.ne_empty fun _ hword => Message.bare_ne_empty hword⟩

namespace Graph

theorem Readable.mem_triggers_of_visible {g : Graph} (h : g.Readable) {limit : Nat} {kind : Kind}
    {s : TopicId} {entry : Entry} (hentry : entry ∈ g.visible limit kind s) :
    g.trigger entry.trigger ∈ g.triggers := by
  obtain ⟨⟨v, howned, _⟩, _⟩ := mem_visible_iff.mp hentry
  exact trigger_mem (h.owned v _ howned)

end Graph

namespace Bot

/-- After any run of operations, the captures of a match are the items that the pattern of its
trigger captures from the message, so that as many numbers have an item as the pattern captures. A
match on a condition has the items that the condition captures from the reply before, and any other
match has none. -/
theorem captures_are_numbered (options : Options) (operations : List Operation)
    {topic message : String} {previous : Option String} {m : Match} :
    let b := (new options).run operations
    let t := b.graph.trigger m.trigger
    b.matchMessage topic message previous = .ok (some m) →
      t ∈ b.graph.triggers ∧ m.pattern = t.pattern.text ∧
        t.pattern.Itemizes message m.captures ∧
        (∀ n, (∃ item, m.star? n = some item) ↔ 1 ≤ n ∧ n ≤ t.pattern.captureCount) ∧
        ((m.previous = none ∧ m.previousCaptures = []) ∨
          ∃ condition reply, m.previous = some condition.text ∧ t.previous = some condition ∧
            previous = some reply ∧ condition.Itemizes reply m.previousCaptures ∧
            ∀ n, (∃ item, m.botstar? n = some item) ↔ 1 ≤ n ∧ n ≤ condition.captureCount) := by
  intro b t h
  have hreadable : b.graph.Readable := kept_run Graph.kept_readable Graph.readable_empty _ _
  have harrays : b.arrays.Worded := worded_run options operations
  obtain ⟨id, _, hanswers⟩ := answers_of_matchMessage h
  cases hanswers with
  | @contextual _ entry words condition hreply hforemost hreports hcondition hprevious
      hpreviousCaptures hcaptures =>
    have ht : t = b.graph.trigger entry.trigger := congrArg b.graph.trigger hreports.trigger
    have hmem := hreadable.mem_triggers_of_visible hforemost.mem
    have hcompiled := hreadable.compiled _ hmem
    rw [ht]
    have hitems := Pattern.itemizes_of_align hcompiled.pattern harrays hcaptures
    obtain ⟨reply, hsome, rfl⟩ := Option.map_eq_some_iff.mp hreply
    obtain ⟨raw, hread⟩ := hcompiled.previous condition hcondition
    have hreplied := Pattern.itemizes_of_align hread harrays hpreviousCaptures
    rw [condition.spelling_eq] at hprevious
    exact ⟨hmem, hreports.pattern_eq, hitems, hitems.exists_nth?_iff,
      .inr ⟨condition, reply, hprevious, hcondition, hsome, hreplied, hreplied.exists_nth?_iff⟩⟩
  | @plain _ entry hcontext hforemost hreports hprevious hpreviousCaptures hcaptures =>
    have ht : t = b.graph.trigger entry.trigger := congrArg b.graph.trigger hreports.trigger
    have hmem := hreadable.mem_triggers_of_visible hforemost.mem
    rw [ht]
    have hitems := Pattern.itemizes_of_align (hreadable.compiled _ hmem).pattern harrays hcaptures
    exact ⟨hmem, hreports.pattern_eq, hitems, hitems.exists_nth?_iff,
      .inl ⟨hprevious, hpreviousCaptures⟩⟩

/-- A pattern with three tokens that capture, one of which is a word of an array, and a condition
with one. -/
theorem captures_are_numbered_after_reply :
    let operations := [.defineArray "color" ["red", "dark  blue"],
      .register "random" "[please] call me _ # or (@color)" ["ok"] (some "who are *"), .sort]
    let b := (new .standard).run operations
    let m := b.spell 0 ⟨⟨0, 0⟩, ["ann lee", "7", "dark blue"], ["you"], true⟩
    b.matchMessage "random" "Call me Ann Lee, 7 or dark blue!" (some "Who are you?") =
        .ok (some m) ∧
      (b.graph.trigger m.trigger).pattern.Itemizes "Call me Ann Lee, 7 or dark blue!" m.captures ∧
      ∀ n, (∃ item, m.star? n = some item) ↔ 1 ≤ n ∧ n ≤ 3 := by
  intro operations b m
  have hfind : b.graph.find? "random" = some 0 := by decide +kernel
  have hsorted : (b.graph.topic 0).sorted = some ⟨[], [⟨0, 0⟩]⟩ := by decide +kernel
  have hcondition : (b.graph.trigger 0).previous =
      some ⟨[.literal "who", .literal "are", .wild .any], 0⟩ := by decide +kernel
  have hprevious : Pattern.align b.arrays ⟨[.literal "who", .literal "are", .wild .any], 0⟩
      (Message.read "Who are you?") = some ["you"] := by
    rw [Pattern.align, Alignment.found_run]
    decide +kernel
  have halign : (b.graph.trigger 0).pattern.align b.arrays
      (Message.read "Call me Ann Lee, 7 or dark blue!") = some ["ann lee", "7", "dark blue"] := by
    rw [Pattern.align, Alignment.found_run]
    decide +kernel
  have hmatch := matchMessage_of_contextual hfind hsorted rfl hcondition hprevious halign
  have hcount : (b.graph.trigger m.trigger).pattern.captureCount = 3 := by decide +kernel
  obtain ⟨_, _, hitems, hstar, _⟩ := captures_are_numbered .standard operations hmatch
  rw [hcount] at hstar
  exact ⟨hmatch, hitems, hstar⟩

end Bot
end Parley
