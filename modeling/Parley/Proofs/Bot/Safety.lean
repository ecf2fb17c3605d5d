import Parley.Proofs.Bot.Access
import Parley.Proofs.Bot.Unrelated

/-!
# Bots do not fail

What a bot does and what it is asked, written once more on top of the access to its graph that
fails for a number out of range. From a new bot on no run of operations fails, and neither does
anything that can be asked of the bot then: the numbers that it holds fit together.
-/
namespace Parley.Bot

namespace Checked
open Graph.Checked

def enrol (b : Bot) (name text : String) (responses : List String)
    (patterns : Pattern × Option Pattern) : Option (Bot × TriggerId) := do
  let graph := b.graph.ensure name
  let owner ← graph.find? name
  let (graph, id) ← addTrigger graph
    { topic := owner, raw := text, pattern := patterns.1, responses, previous := patterns.2 }
  return ({ b with graph }, id)

def register (b : Bot) (name text : String) (responses : List String) (previous : Option String) :
    Option (Bot × Except Error TriggerId) :=
  match readPatterns text previous with
  | .error error => return (b, .error error)
  | .ok patterns => do
    let (b, id) ← enrol b name text responses patterns
    return (b, .ok id)

def addEdge (b : Bot) (relation : Relation) (name other : String) : Option Bot := do
  let graph := (b.graph.ensure name).ensure other
  let id ← graph.find? name
  let otherId ← graph.find? other
  return { b with graph := ← Graph.Checked.addEdge graph relation id otherId }

def apply (a : Applied) : Script.Directive → Option Applied
  | .array name entries => return { a with bot := a.bot.defineArray name entries }
  | .topic name includes inherits => do
    let bot ← includes.foldlM (addEdge · .includes name ·) (a.bot.ensureTopic name)
    let bot ← inherits.foldlM (addEdge · .inherits name ·) bot
    return { a with bot }
  | .trigger t => do
    let (bot, outcome) ← register a.bot t.topic t.pattern t.responses t.previous
    return ⟨bot, outcome :: a.outcomes⟩

def load (b : Bot) (source : String) : Option (Bot × Except Error LoadReport) :=
  match Script.read b.scriptRules source with
  | .error error => return (b, .error error)
  | .ok script => do
    let applied ← script.directives.foldlM apply ⟨b, []⟩
    return (applied.bot, .ok (applied.report script))

def sort (b : Bot) : Option (Bot × SortReport) := do
  let (graph, report) ← Graph.Checked.sort b.graph b.options.limit
  return ({ b with graph }, report)

def step (b : Bot) : Operation → Option Bot
  | .register name text responses previous => return (← register b name text responses previous).1
  | .addEdge relation name other => addEdge b relation name other
  | .defineArray name entries => return b.defineArray name entries
  | .load source => return (← load b source).1
  | .sort => return (← sort b).1

def run (b : Bot) (operations : List Operation) : Option Bot := operations.foldlM step b

def topicNames (b : Bot) : Option (List String) := names b.graph b.graph.topicIds

def edgesOf? (b : Bot) (relation : Relation) (name : String) : Option (Option (List String)) :=
  match b.graph.find? name with
  | none => return none
  | some id => return some (← names b.graph ((← topic b.graph id).edges relation))

def listing (b : Bot) (name : String) : Option (Except Error Listing) :=
  match b.graph.find? name with
  | none => return .error (.unknownTopic name)
  | some id => do
    match (← topic b.graph id).sorted with
    | none => return .error (.unsorted name)
    | some listing => return .ok listing

def describe (b : Bot) (entry : Entry) : Option Listed := do
  let t ← trigger b.graph entry.trigger
  return {
    pattern := t.pattern.text
    raw := t.raw
    previous := t.previous.map Pattern.text
    owner := (← topic b.graph t.topic).name
    depth := entry.depth }

def sorted (b : Bot) (kind : Kind) (name : String) : Option (Except Error (List Listed)) := do
  match ← listing b name with
  | .error error => return .error error
  | .ok listing => return .ok (← (listing.entries kind).mapM (describe b))

def ownerOf? (b : Bot) (name text : String) : Option (Option String) :=
  match b.graph.find? name, (Pattern.read text).toOption with
  | some id, some pattern => do
    match ← owner? b.graph b.options.limit id pattern.text with
    | none => return none
    | some found => return some (← topic b.graph (← trigger b.graph found).topic).name
  | _, _ => return none

def treeOf? (b : Bot) (name : String) : Option (Option (List String × List Issue)) :=
  match b.graph.find? name with
  | none => return none
  | some id => do
    let tree ← tree b.graph b.options.limit id
    return some (← names b.graph tree.topics, tree.issues)

def plain? (b : Bot) (message : List Word) (entry : Entry) : Option (Option Hit) := do
  let t ← trigger b.graph entry.trigger
  return (t.pattern.align b.arrays message).map fun captures => ⟨entry, captures, [], false⟩

def contextual? (b : Bot) (message reply : List Word) (entry : Entry) : Option (Option Hit) := do
  let t ← trigger b.graph entry.trigger
  return do
    let previous ← t.previous
    let previousCaptures ← previous.align b.arrays reply
    let captures ← t.pattern.align b.arrays message
    return ⟨entry, captures, previousCaptures, true⟩

def findHit? (b : Bot) (listing : Listing) (message : List Word) :
    (reply : Option (List Word)) → Option (Option Hit)
  | none => listing.plain.findSomeM? (plain? b message)
  | some reply => do
    match ← listing.previous.findSomeM? (contextual? b message reply) with
    | some hit => return some hit
    | none => listing.plain.findSomeM? (plain? b message)

def spell (b : Bot) (id : TopicId) (hit : Hit) : Option Match := do
  let t ← trigger b.graph hit.entry.trigger
  return {
    trigger := hit.entry.trigger
    topic := (← topic b.graph id).name
    owner := (← topic b.graph t.topic).name
    pattern := t.pattern.text
    previous := if hit.contextual then t.previous.map Pattern.text else none
    depth := hit.entry.depth
    responses := t.responses
    captures := hit.captures
    previousCaptures := hit.previousCaptures }

def matchMessage (b : Bot) (name message : String) (previous : Option String) :
    Option (Except Error (Option Match)) := do
  match ← listing b name with
  | .error error => return .error error
  | .ok listing =>
    let id ← b.graph.find? name
    match ← findHit? b listing (Message.read message) (previous.map Message.read) with
    | none => return .ok none
    | some hit => return .ok (some (← spell b id hit))

section WellFormed
variable {b : Bot} (h : b.graph.WellFormed)
include h

theorem enrol_eq (name text : String) (responses : List String)
    (patterns : Pattern × Option Pattern) :
    enrol b name text responses patterns = some (b.enrol name text responses patterns) := by
  have hensure := Graph.kept_wellFormed.ensure _ name h
  obtain ⟨owner, howner⟩ := b.graph.exists_find?_ensure name
  have hadd := addTrigger_eq hensure.stored
    (t := ⟨owner, text, patterns.1, responses, patterns.2⟩) (Graph.lt_size_of_find? howner)
  simp only [enrol, Bot.enrol, howner, Graph.idOf_eq howner, Option.bind_eq_bind, Option.bind_some,
    hadd]
  rfl

theorem register_eq (name text : String) (responses : List String) (previous : Option String) :
    register b name text responses previous = some (b.register name text responses previous) := by
  rw [register, Bot.register]
  cases readPatterns text previous with
  | error error => rfl
  | ok patterns =>
    simp only [enrol_eq h, Option.bind_eq_bind, Option.bind_some]
    rfl

omit h in
theorem addEdge_eq (b : Bot) (relation : Relation) (name other : String) :
    addEdge b relation name other = some (b.addEdge relation name other) := by
  obtain ⟨id, hid⟩ := b.graph.exists_find?_ensure name
  obtain ⟨otherId, hother⟩ := (b.graph.ensure name).exists_find?_ensure other
  have hid' := (Graph.evolves_ensure _ other).within.find? hid
  simp only [addEdge, Bot.addEdge, hid', hother, Graph.idOf_eq hid', Graph.idOf_eq hother,
    Option.bind_eq_bind, Option.bind_some,
    Graph.Checked.addEdge_eq relation (Graph.lt_size_of_find? hid')]
  rfl

omit h in
theorem foldlM_addEdge_eq (relation : Relation) (name : String) (others : List String) (b : Bot) :
    others.foldlM (addEdge · relation name ·) b =
      some (others.foldl (·.addEdge relation name ·) b) :=
  foldlM_eq_some (P := fun _ => True) trivial fun b _ other _ =>
    ⟨addEdge_eq b relation name other, trivial⟩

omit h in
theorem apply_eq {a : Applied} (h : a.bot.graph.WellFormed) (directive : Script.Directive) :
    apply a directive = some (Bot.apply a directive) := by
  cases directive with
  | array name entries => rfl
  | topic name includes inherits =>
    simp only [apply, foldlM_addEdge_eq, Option.bind_eq_bind, Option.bind_some]
    rfl
  | trigger t =>
    simp only [apply, register_eq h, Option.bind_eq_bind, Option.bind_some]
    rfl

theorem load_eq (source : String) : load b source = some (b.load source) := by
  cases hread : Script.read b.scriptRules source with
  | error error => simp only [load, hread, load_of_error hread]; rfl
  | ok script =>
    have hfold : script.directives.foldlM apply ⟨b, []⟩ =
        some (script.directives.foldl Bot.apply ⟨b, []⟩) :=
      foldlM_eq_some (P := fun a => a.bot.graph.WellFormed) h fun a ha directive _ =>
        ⟨apply_eq ha directive, kept_apply Graph.kept_wellFormed directive ha⟩
    simp only [load, hread, hfold, load_of_applied hread, Option.bind_eq_bind, Option.bind_some]
    rfl

theorem step_eq (operation : Operation) : step b operation = some (b.step operation) := by
  cases operation with
  | register name text responses previous =>
    simp only [step, register_eq h, Option.bind_eq_bind, Option.bind_some]
    rfl
  | addEdge relation name other => exact addEdge_eq b relation name other
  | defineArray name entries => rfl
  | load source =>
    simp only [step, load_eq h, Option.bind_eq_bind, Option.bind_some]
    rfl
  | sort =>
    simp only [step, sort, Graph.Checked.sort_eq h.toLinked h.stored, Option.bind_eq_bind,
      Option.bind_some]
    rfl

/-- No operation of a run fails. -/
theorem run_eq (operations : List Operation) : run b operations = some (b.run operations) :=
  foldlM_eq_some (P := fun b => b.graph.WellFormed) h fun _ hb operation _ =>
    ⟨step_eq hb operation, kept_step Graph.kept_wellFormed operation hb⟩

omit h in
theorem topicNames_eq (b : Bot) : topicNames b = some b.topicNames :=
  names_eq fun _ hid => List.mem_range.mp hid

theorem edgesOf?_eq (relation : Relation) (name : String) :
    edgesOf? b relation name = some (b.edgesOf? relation name) := by
  cases hfind : b.graph.find? name with
  | none => simp only [edgesOf?, Bot.edgesOf?, hfind]; rfl
  | some id =>
    simp only [edgesOf?, Bot.edgesOf?, hfind, topic_eq (Graph.lt_size_of_find? hfind),
      Option.bind_eq_bind, Option.bind_some, names_eq (h.edges_lt relation id)]
    rfl

omit h in
theorem listing_eq (b : Bot) (name : String) : listing b name = some (b.listing name) := by
  cases hfind : b.graph.find? name with
  | none => simp only [listing, Bot.listing, hfind]; rfl
  | some id =>
    simp only [listing, Bot.listing, hfind, topic_eq (Graph.lt_size_of_find? hfind),
      Option.bind_eq_bind, Option.bind_some]
    cases (b.graph.topic id).sorted <;> rfl

/-- Listings hold triggers that exist. -/
theorem lt_of_listing {name : String} {listing : Listing} (hlisting : b.listing name = .ok listing)
    (kind : Kind) : ∀ entry ∈ listing.entries kind, entry.trigger < b.graph.triggers.size := by
  obtain ⟨id, _, hsorted⟩ := listing_eq_ok_iff.mp hlisting
  exact h.listed id listing hsorted kind

theorem describe_eq {entry : Entry} (hentry : entry.trigger < b.graph.triggers.size) :
    describe b entry = some (b.describe entry) := by
  simp only [describe, trigger_eq hentry, topic_eq (h.topic_lt _ hentry), Option.bind_eq_bind,
    Option.bind_some]
  rfl

theorem sorted_eq (kind : Kind) (name : String) :
    sorted b kind name = some (b.sorted kind name) := by
  rw [sorted, listing_eq, Bot.sorted]
  cases hlisting : b.listing name with
  | error error => rfl
  | ok listing =>
    have hentries := mapM_eq_some fun entry hentry =>
      describe_eq h (lt_of_listing h hlisting kind entry hentry)
    simp only [Option.bind_eq_bind, Option.bind_some, hentries]
    rfl

theorem ownerOf?_eq (name text : String) : ownerOf? b name text = some (b.ownerOf? name text) := by
  cases hfind : b.graph.find? name with
  | none => simp only [ownerOf?, Bot.ownerOf?, hfind]; rfl
  | some id =>
    cases hpattern : (Pattern.read text).toOption with
    | none => simp only [ownerOf?, Bot.ownerOf?, hfind, hpattern]; rfl
    | some pattern =>
      have hid := Graph.lt_size_of_find? hfind
      simp only [ownerOf?, Bot.ownerOf?, hfind, hpattern,
        owner?_eq h.toLinked h.stored b.options.limit hid, Option.bind_eq_bind, Option.bind_some]
      cases hfound : b.graph.owner? b.options.limit id pattern.text with
      | none => rfl
      | some found =>
        have hlt := lt_of_owner? h.stored hfound
        simp only [trigger_eq hlt, topic_eq (h.topic_lt found hlt), Option.bind_some]
        rfl

theorem treeOf?_eq (name : String) : treeOf? b name = some (b.treeOf? name) := by
  cases hfind : b.graph.find? name with
  | none => simp only [treeOf?, Bot.treeOf?, hfind]; rfl
  | some id =>
    have hid := Graph.lt_size_of_find? hfind
    simp only [treeOf?, Bot.treeOf?, hfind, tree_eq h.toLinked _ hid,
      names_eq fun _ => lt_of_mem_tree h.toLinked hid, Option.bind_eq_bind, Option.bind_some]
    rfl

omit h in
theorem plain?_eq (message : List Word) {entry : Entry}
    (hentry : entry.trigger < b.graph.triggers.size) :
    plain? b message entry = some (Hit.plain? b.graph b.arrays message entry) := by
  rw [plain?, trigger_eq hentry]
  rfl

omit h in
theorem contextual?_eq (message reply : List Word) {entry : Entry}
    (hentry : entry.trigger < b.graph.triggers.size) :
    contextual? b message reply entry =
      some (Hit.contextual? b.graph b.arrays message reply entry) := by
  rw [contextual?, trigger_eq hentry]
  rfl

omit h in
theorem findHit?_eq {listing : Listing}
    (hlisting : ∀ kind, ∀ entry ∈ listing.entries kind, entry.trigger < b.graph.triggers.size)
    (message : List Word) (reply : Option (List Word)) :
    findHit? b listing message reply = some (b.findHit? listing message reply) := by
  have hplain := findSomeM?_eq_some fun entry hentry =>
    plain?_eq message (hlisting .plain entry hentry)
  cases reply with
  | none => exact hplain
  | some reply =>
    have hcontextual := findSomeM?_eq_some fun entry hentry =>
      contextual?_eq message reply (hlisting .previous entry hentry)
    simp only [Listing.entries] at hplain hcontextual
    simp only [findHit?, Bot.findHit?, hplain, hcontextual, Option.bind_eq_bind, Option.bind_some]
    cases listing.previous.findSome? (Hit.contextual? b.graph b.arrays message reply) <;> rfl

theorem spell_eq {id : TopicId} (hid : id < b.graph.topics.size) {hit : Hit}
    (hhit : hit.entry.trigger < b.graph.triggers.size) :
    spell b id hit = some (b.spell id hit) := by
  simp only [spell, trigger_eq hhit, topic_eq hid, topic_eq (h.topic_lt _ hhit),
    Option.bind_eq_bind, Option.bind_some]
  rfl

theorem matchMessage_eq (name message : String) (previous : Option String) :
    matchMessage b name message previous = some (b.matchMessage name message previous) := by
  rw [matchMessage, listing_eq]
  cases hlisting : b.listing name with
  | error error => rw [matchMessage_of_error hlisting]; rfl
  | ok listing =>
    obtain ⟨id, hfind, _⟩ := listing_eq_ok_iff.mp hlisting
    have hentries := lt_of_listing h hlisting
    simp only [matchMessage_of_listing hlisting, hfind, Graph.idOf_eq hfind,
      findHit?_eq hentries, Option.bind_eq_bind, Option.bind_some]
    cases hfound : b.findHit? listing (Message.read message) (previous.map Message.read) with
    | none => rfl
    | some hit =>
      obtain ⟨kind, hmem⟩ := exists_mem_of_findHit? hfound
      simp only [spell_eq h (Graph.lt_size_of_find? hfind) (hentries kind _ hmem),
        Option.bind_some]
      rfl

end WellFormed

end Checked

/-- Nothing that a bot does or is asked goes by a number out of range. -/
structure Safe (b : Bot) : Prop where
  step : ∀ operation, Checked.step b operation = some (b.step operation)
  topicNames : Checked.topicNames b = some b.topicNames
  edges : ∀ relation name, Checked.edgesOf? b relation name = some (b.edgesOf? relation name)
  sorted : ∀ kind name, Checked.sorted b kind name = some (b.sorted kind name)
  owner : ∀ name text, Checked.ownerOf? b name text = some (b.ownerOf? name text)
  tree : ∀ name, Checked.treeOf? b name = some (b.treeOf? name)
  matchMessage : ∀ name message previous,
    Checked.matchMessage b name message previous = some (b.matchMessage name message previous)

theorem safe_of_wellFormed {b : Bot} (h : b.graph.WellFormed) : b.Safe where
  step := Checked.step_eq h
  topicNames := Checked.topicNames_eq b
  edges := Checked.edgesOf?_eq h
  sorted := Checked.sorted_eq h
  owner := Checked.ownerOf?_eq h
  tree := Checked.treeOf?_eq h
  matchMessage := Checked.matchMessage_eq h

/-- After any run of operations the parts of the graph fit together: names are trimmed and in lower
case, no two topics have the same one, and the map of names holds each with the number of its topic
and nothing else, so that any spelling of a name finds its topic; edges, triggers and listings lead
to what exists, and each trigger is filed once, under its own topic. Topics keep their numbers and
names in all that follows, and the report of sorting finds the topics that the names stand for as
long as none is new. So no number out of range was met in the run, and none will be in the next
operation or in whatever can be asked. -/
theorem arena_fits_together (options : Options) (operations : List Operation) :
    let b := (new options).run operations
    let g := b.graph
    g.WellFormed ∧
    (∀ id < g.topics.size, Unicode.lowercase (Text.trim (g.topic id).name.toList) =
      (g.topic id).name.toList) ∧
    (∀ name id, g.byName[name]? = some id ↔ id < g.topics.size ∧ (g.topic id).name = name) ∧
    (∀ name id, g.find? name = some id ↔ id < g.topics.size ∧
      (g.topic id).name.toList = Unicode.lowercase (Text.trim name.toList)) ∧
    (g.topicIds.flatMap fun id => (g.topic id).triggers).Perm (List.range g.triggers.size) ∧
    (∀ topic, ∀ id ∈ (g.topic topic).triggers, (g.trigger id).topic = topic) ∧
    (∀ more, let later := (b.run more).graph
      (∀ id < g.topics.size, id < later.topics.size ∧ (later.topic id).name = (g.topic id).name) ∧
      (∀ name id, g.find? name = some id → later.find? name = some id)) ∧
    b.sort.2.map TopicReport.topic = b.topicNames ∧
    (∀ more, let later := (b.sort.1.run more).graph
      later.topics.size = g.topics.size → ∀ name,
        SortReport.find? b.sort.2 name = (later.find? name).bind fun id => b.sort.2[id]?) ∧
    Checked.run (new options) operations = some b ∧ b.Safe := by
  intro b g
  have hformed : g.WellFormed := wellFormed_run options operations
  refine ⟨hformed, fun id hid => ?_, fun name id => hformed.getElem?_byName, fun name id => ?_,
    hformed.flatMap_perm, fun topic id hid => (hformed.mem_iff.mp hid).2, fun more => ?_,
    g.map_topic_report b.options.limit, fun more => ?_,
    Checked.run_eq Graph.wellFormed_empty operations, safe_of_wellFormed hformed⟩
  · rw [← Text.toList_key, hformed.keyed id hid]
  · rw [hformed.find?_eq_some_iff, ← Text.toList_key, String.toList_inj]
  · have hwithin := within_run b more
    exact ⟨fun id hid => ⟨Nat.lt_of_lt_of_le hid hwithin.size, hwithin.name id hid⟩,
      fun name id => hwithin.find?⟩
  · intro later hsize name
    have hwithin : g.Within later := (within_step b .sort).trans (within_run b.sort.1 more)
    rw [hwithin.find?_eq hsize]
    exact g.find?_report_eq_bind b.options.limit name

end Parley.Bot
