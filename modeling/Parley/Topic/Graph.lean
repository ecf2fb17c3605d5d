import Parley.Pattern.Token
import Parley.Text.Strings
import Std.Data.ExtTreeMap

/-!
# The graph of topics

Topics own triggers and have two kinds of edges to other topics, to those they include and to
those they inherit. Topics and triggers are numbered in the order of their creation and never go
away, and a map finds the number of a topic by its name. Each topic can hold a listing of the
triggers that it sees, made when the graph is sorted; a change of the graph drops all listings,
because any topic may see what has changed.
-/
namespace Parley

abbrev TopicId := Nat
abbrev TriggerId := Nat

/-- A trigger as some topic sees it: the depth counts the inherit edges on the way. -/
structure Entry where
  trigger : TriggerId
  depth : Nat
  deriving DecidableEq

theorem Entry.ext {a b : Entry} (htrigger : a.trigger = b.trigger) (hdepth : a.depth = b.depth) :
    a = b := by
  cases a
  cases b
  rw [mk.injEq]
  exact ⟨htrigger, hdepth⟩

/-- The entries of a topic in the order in which they are tried: triggers without a condition on the
reply before, and triggers with one. -/
structure Listing where
  plain : List Entry
  previous : List Entry
  deriving DecidableEq

structure Trigger where
  topic : TopicId
  /-- The text as it was registered. -/
  raw : String
  pattern : Pattern
  responses : List String
  /-- What the reply before must look like. -/
  previous : Option Pattern
  deriving DecidableEq

/-- How a topic refers to another one. -/
inductive Relation where
  | includes
  | inherits
  deriving DecidableEq

structure Topic where
  /-- The key of its name. -/
  name : String
  triggers : List TriggerId
  includes : List TopicId
  inherits : List TopicId
  sorted : Option Listing
  deriving DecidableEq

namespace Topic

def new (name : String) : Topic := ⟨name, [], [], [], none⟩

/-- The topics that a topic refers to in one way. -/
def edges (t : Topic) : Relation → List TopicId
  | .includes => t.includes
  | .inherits => t.inherits

def addEdge (t : Topic) (relation : Relation) (other : TopicId) : Topic :=
  match relation with
  | .includes => { t with includes := t.includes ++ [other] }
  | .inherits => { t with inherits := t.inherits ++ [other] }

def addTrigger (t : Topic) (id : TriggerId) : Topic := { t with triggers := t.triggers ++ [id] }

theorem name_addTrigger (t : Topic) (id : TriggerId) : (t.addTrigger id).name = t.name := rfl

@[simp] theorem edges_new (name : String) (relation : Relation) :
    (new name).edges relation = [] := by
  cases relation <;> rfl

@[simp] theorem name_addEdge (t : Topic) (relation : Relation) (other : TopicId) :
    (t.addEdge relation other).name = t.name := by
  cases relation <;> rfl

@[simp] theorem triggers_addEdge (t : Topic) (relation : Relation) (other : TopicId) :
    (t.addEdge relation other).triggers = t.triggers := by
  cases relation <;> rfl

theorem edges_addEdge (t : Topic) (relation added : Relation) (other : TopicId) :
    (t.addEdge added other).edges relation =
      if relation = added then t.edges relation ++ [other] else t.edges relation := by
  cases relation <;> cases added <;> rfl

end Topic

/-- The two kinds of triggers, without and with a condition on the reply before. -/
inductive Kind where
  | plain
  | previous
  deriving DecidableEq

namespace Listing

def entries (listing : Listing) : Kind → List Entry
  | .plain => listing.plain
  | .previous => listing.previous

end Listing

namespace Trigger

def kind (t : Trigger) : Kind := if t.previous.isSome then .previous else .plain

/-- A trigger is known in its topic by the texts of its two patterns. -/
def identity (t : Trigger) : String × Option String := (t.pattern.text, t.previous.map Pattern.text)

end Trigger

structure Graph where
  topics : Array Topic
  triggers : Array Trigger
  /-- The numbers of the topics by their names. -/
  byName : Std.ExtTreeMap String TopicId
  byName_eq : ∀ name : String, byName[name]? = topics.findIdx? (·.name == name)

namespace Graph

/-- The map of names follows from the topics. -/
theorem ext {g g' : Graph} (htopics : g.topics = g'.topics) (htriggers : g.triggers = g'.triggers) :
    g = g' := by
  obtain ⟨topics, triggers, byName, hbyName⟩ := g
  obtain ⟨topics', triggers', byName', hbyName'⟩ := g'
  obtain rfl : topics = topics' := htopics
  obtain rfl : triggers = triggers' := htriggers
  obtain rfl : byName = byName' :=
    Std.ExtTreeMap.ext_getElem? fun {name} => (hbyName name).trans (hbyName' name).symm
  rfl

def empty : Graph := ⟨#[], #[], ∅, fun _ => by simp⟩

/-- The topic of a number, and an empty one for a number out of range. -/
def topic (g : Graph) (id : TopicId) : Topic := g.topics[id]?.getD (.new "")

/-- The trigger of a number, and one without tokens for a number out of range. -/
def trigger (g : Graph) (id : TriggerId) : Trigger :=
  g.triggers[id]?.getD ⟨0, "", ⟨[], 0⟩, [], none⟩

def topicIds (g : Graph) : List TopicId := List.range g.topics.size

/-- The topic whose name has this key. -/
def find? (g : Graph) (name : String) : Option TopicId := g.byName[Text.key name]?

def names (g : Graph) (ids : List TopicId) : List String := ids.map fun id => (g.topic id).name

/-- Drops the listings of all topics. -/
def unsort (g : Graph) : Graph :=
  { g with
    topics := g.topics.map fun topic => { topic with sorted := none }
    byName_eq name := by rw [g.byName_eq, Array.findIdx?_map]; rfl }

@[simp] theorem size_topics_unsort (g : Graph) : g.unsort.topics.size = g.topics.size := by
  simp [unsort]

@[simp] theorem triggers_unsort (g : Graph) : g.unsort.triggers = g.triggers := rfl

@[simp] theorem trigger_unsort (g : Graph) (id : TriggerId) : g.unsort.trigger id = g.trigger id :=
  rfl

@[simp] theorem find?_unsort (g : Graph) (name : String) : g.unsort.find? name = g.find? name := rfl

/-- Dropping the listings changes nothing else of a topic. -/
theorem topic_unsort (g : Graph) (id : TopicId) :
    g.unsort.topic id = { g.topic id with sorted := none } := by
  by_cases h : id < g.topics.size <;> simp [topic, unsort, Topic.new, h]

theorem map_name_modify (topics : Array Topic) (id : TopicId) {change : Topic → Topic}
    (hname : ∀ t, (change t).name = t.name) :
    (topics.modify id change).map Topic.name = topics.map Topic.name := by
  apply Array.ext
  · simp
  · intro i _ _
    rw [Array.getElem_map, Array.getElem_map, Array.getElem_modify]
    split
    · exact hname _
    · rfl

/-- Changes a topic in all but its name. -/
def modifyTopic (g : Graph) (id : TopicId) (change : Topic → Topic)
    (hname : ∀ t, (change t).name = t.name) : Graph :=
  { g with
    topics := g.topics.modify id change
    byName_eq name := by
      have hnames := congrArg (Array.findIdx? (· == name)) (map_name_modify g.topics id hname)
      rw [Array.findIdx?_map, Array.findIdx?_map] at hnames
      exact (g.byName_eq name).trans hnames.symm }

section ModifyTopic
variable (g : Graph) {id other : TopicId} {change : Topic → Topic}
  (hname : ∀ t, (change t).name = t.name)

@[simp] theorem size_topics_modifyTopic :
    (g.modifyTopic id change hname).topics.size = g.topics.size := by
  simp [modifyTopic]

@[simp] theorem triggers_modifyTopic :
    (g.modifyTopic id change hname).triggers = g.triggers := rfl

theorem topic_modifyTopic_self (h : id < g.topics.size) :
    (g.modifyTopic id change hname).topic id = change (g.topic id) := by
  simp [topic, modifyTopic, Array.getElem_modify, h]

theorem topic_modifyTopic_of_ne (h : other ≠ id) :
    (g.modifyTopic id change hname).topic other = g.topic other := by
  simp [topic, modifyTopic, Array.getElem?_modify, Ne.symm h]

end ModifyTopic

/-- Adds a topic whose name is not known yet. -/
def push (g : Graph) (name : String) (hnew : g.find? name = none) : Graph :=
  { g with
    topics := g.topics.push (.new (Text.key name))
    byName := g.byName.insert (Text.key name) g.topics.size
    byName_eq other := by
      rw [Std.ExtTreeMap.getElem?_insert, Array.findIdx?_push, ← g.byName_eq]
      rw [find?] at hnew
      by_cases hother : Text.key name = other
      · subst hother
        simp [hnew, Topic.new]
      · simp [hother, Topic.new] }

/-- Sees to it that a topic of this name exists. -/
def ensure (g : Graph) (name : String) : Graph :=
  match hfind : g.find? name with
  | some _ => g
  | none => (g.push name hfind).unsort

/-- The number of a topic that exists. -/
def idOf (g : Graph) (name : String) : TopicId := (g.find? name).getD 0

/-- The trigger of a topic with this identity. -/
def findTrigger? (g : Graph) (topic : TopicId) (identity : String × Option String) :
    Option TriggerId :=
  (g.topic topic).triggers.find? fun id => (g.trigger id).identity == identity

/-- Adds a trigger to its topic. If the topic has one of the same identity, that one takes over the
text, the pattern with its weight and the responses. -/
def addTrigger (g : Graph) (t : Trigger) : Graph × TriggerId :=
  match g.findTrigger? t.topic t.identity with
  | some id =>
    let replace (old : Trigger) : Trigger :=
      { old with raw := t.raw, pattern := t.pattern, responses := t.responses }
    (({ g with triggers := g.triggers.modify id replace } : Graph).unsort, id)
  | none =>
    let id := g.triggers.size
    let g := ({ g with triggers := g.triggers.push t } : Graph).modifyTopic t.topic
      (·.addTrigger id) fun topic => topic.name_addTrigger id
    (g.unsort, id)

/-- Adds an edge that is not there yet. -/
def addEdge (g : Graph) (relation : Relation) (topic other : TopicId) : Graph :=
  if ((g.topic topic).edges relation).contains other then g
  else
    (g.modifyTopic topic (·.addEdge relation other) fun t => t.name_addEdge relation other).unsort

def addInclude (g : Graph) (topic other : TopicId) : Graph := g.addEdge .includes topic other

def addInherit (g : Graph) (topic other : TopicId) : Graph := g.addEdge .inherits topic other

/-- The first trigger of a topic whose pattern has this text. -/
def owned? (g : Graph) (topic : TopicId) (text : String) : Option TriggerId :=
  (g.topic topic).triggers.find? fun id => (g.trigger id).pattern.text == text

def setListing (g : Graph) (topic : TopicId) (listing : Listing) : Graph :=
  g.modifyTopic topic (fun t => { t with sorted := some listing }) fun _ => rfl

end Graph
end Parley
