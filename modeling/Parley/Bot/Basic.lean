import Parley.Arrays
import Parley.Error
import Parley.Pattern.Reader
import Parley.Topic.Owner
import Parley.Topic.Sorting
import Parley.Topic.Tree

/-!
# Bots

A bot holds a graph of topics with their triggers, the arrays that patterns refer to, and its
options. Topics are named here; a name stands for the topic with its key. An operation that can fail
returns the bot beside its outcome.
-/
namespace Parley

structure Options where
  /-- How many edges a walk through the graph follows in a row. -/
  limit : Nat
  /-- The greatest version that a script may declare. -/
  supported : Float

namespace Options

def standard : Options := ⟨50, 2⟩

end Options

/-- The topic of triggers that are registered outside any other. -/
def defaultTopic : String := "random"

structure Bot where
  graph : Graph
  arrays : Arrays
  options : Options

namespace Bot

def new (options : Options) : Bot := ⟨.empty, .empty, options⟩

/-- Reads a pattern, where a fault is reported with the whole text. -/
def readPattern (text : String) : Except Error Pattern :=
  match Pattern.read text with
  | .ok pattern => .ok pattern
  | .error cause => .error (.malformed text cause)

def readPattern? : Option String → Except Error (Option Pattern)
  | none => .ok none
  | some text => (readPattern text).map some

def ensureTopic (b : Bot) (name : String) : Bot := { b with graph := b.graph.ensure name }

/-- The patterns of a trigger, for the message and for the reply before. -/
def readPatterns (text : String) (previous : Option String) :
    Except Error (Pattern × Option Pattern) := do
  let pattern ← readPattern text
  let condition ← readPattern? previous
  return (pattern, condition)

/-- Adds a trigger whose patterns were read to a topic, which is created if need be. -/
def enrol (b : Bot) (topic text : String) (responses : List String)
    (patterns : Pattern × Option Pattern) : Bot × TriggerId :=
  let graph := b.graph.ensure topic
  let (graph, id) := graph.addTrigger
    { topic := graph.idOf topic, raw := text, pattern := patterns.1, responses,
      previous := patterns.2 }
  ({ b with graph }, id)

/-- Registers a trigger; its patterns are read before the bot is touched. -/
def register (b : Bot) (topic text : String) (responses : List String)
    (previous : Option String) : Bot × Except Error TriggerId :=
  match readPatterns text previous with
  | .error error => (b, .error error)
  | .ok patterns =>
    let (b, id) := b.enrol topic text responses patterns
    (b, .ok id)

/-- Adds an edge between two topics, which are created if need be. -/
def addEdge (b : Bot) (relation : Relation) (topic other : String) : Bot :=
  let graph := (b.graph.ensure topic).ensure other
  { b with graph := graph.addEdge relation (graph.idOf topic) (graph.idOf other) }

/-- Lets a topic include another one. -/
def addInclude (b : Bot) (topic other : String) : Bot := b.addEdge .includes topic other

/-- Lets a topic inherit another one. -/
def addInherit (b : Bot) (topic other : String) : Bot := b.addEdge .inherits topic other

def defineArray (b : Bot) (name : String) (entries : List String) : Bot :=
  { b with arrays := b.arrays.define name entries }

/-- Sorts the triggers that each topic sees. -/
def sort (b : Bot) : Bot × SortReport :=
  let (graph, report) := b.graph.sort b.options.limit
  ({ b with graph }, report)

def topicNames (b : Bot) : List String := b.graph.names b.graph.topicIds

/-- The names of the topics that a topic refers to in one way. -/
def edgesOf? (b : Bot) (relation : Relation) (topic : String) : Option (List String) :=
  (b.graph.find? topic).map fun id => b.graph.names ((b.graph.topic id).edges relation)

/-- The listing of a topic, which must exist and be sorted. -/
def listing (b : Bot) (topic : String) : Except Error Listing :=
  match b.graph.find? topic with
  | none => .error (.unknownTopic topic)
  | some id =>
    match (b.graph.topic id).sorted with
    | none => .error (.unsorted topic)
    | some listing => .ok listing

/-- An entry of a listing, spelled out. -/
structure Listed where
  pattern : String
  raw : String
  previous : Option String
  owner : String
  depth : Nat
  deriving DecidableEq

def describe (b : Bot) (entry : Entry) : Listed :=
  let t := b.graph.trigger entry.trigger
  { pattern := t.pattern.text
    raw := t.raw
    previous := t.previous.map Pattern.text
    owner := (b.graph.topic t.topic).name
    depth := entry.depth }

/-- The entries of one kind that a topic lists, in the order in which they are tried. -/
def sorted (b : Bot) (kind : Kind) (topic : String) : Except Error (List Listed) :=
  (b.listing topic).map fun listing => (listing.entries kind).map b.describe

/-- The name of the topic that owns a pattern, found from `topic` on. -/
def ownerOf? (b : Bot) (topic text : String) : Option String := do
  let id ← b.graph.find? topic
  let pattern ← (Pattern.read text).toOption
  let trigger ← b.graph.owner? b.options.limit id pattern.text
  return (b.graph.topic (b.graph.trigger trigger).topic).name

/-- The names of the topics that edges lead to, and what cut the search for them. -/
def treeOf? (b : Bot) (topic : String) : Option (List String × List Issue) :=
  (b.graph.find? topic).map fun id =>
    let tree := b.graph.tree b.options.limit id
    (b.graph.names tree.topics, tree.issues)

end Bot
end Parley
