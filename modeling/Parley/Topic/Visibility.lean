import Parley.Topic.Graph

/-!
# What a topic sees

A topic sees its own triggers and those of every topic that edges lead to. A walk visits the
included topics, then the inherited ones, then the triggers of the topic itself, and tags each
visit with the number of inherit edges on the way; a topic that has no inherit edges and was not
reached by one is tagged zero. A walk ends where it has gone too deep, and where it meets a topic
on its own path: there it lists the triggers once more, but follows no edges.
-/
namespace Parley

/-- A fault of the graph that a walk met. -/
inductive Issue where
  | depthExceeded (topic : String)
  | cycle (topic : String)
  deriving DecidableEq

/-- What a walk notes, in the order in which it happens. -/
inductive Visit where
  | listed (topic : TopicId) (tag : Nat)
  | met (issue : Issue)
  deriving DecidableEq

namespace Visit

/-- The entries of one kind that a visit yields. -/
def entries (g : Graph) (kind : Kind) : Visit → List Entry
  | listed topic tag =>
    ((g.topic topic).triggers.filter fun id => (g.trigger id).kind == kind).map fun id => ⟨id, tag⟩
  | met _ => []

def issue? : Visit → Option Issue
  | listed _ _ => none
  | met issue => some issue

end Visit

namespace Graph

/-- The tag of a visit to a topic after `inheritance` inherit edges. -/
def tag (g : Graph) (topic : TopicId) (inheritance : Nat) (inherited : Bool) : Nat :=
  if !(g.topic topic).inherits.isEmpty || inherited then inheritance else 0

/-- Walks from `topic`, where `budget` is one more than the number of edges that may still be
followed, `path` the topics on the way, `inheritance` the number of inherit edges among them, and
`inherited` tells whether the last one was such an edge. -/
def walk (g : Graph) :
    (budget : Nat) → (path : List TopicId) → (inheritance : Nat) → (inherited : Bool) →
      (topic : TopicId) → List Visit
  | 0, _, _, _, topic => [.met (.depthExceeded (g.topic topic).name)]
  | budget + 1, path, inheritance, inherited, topic =>
    let own := Visit.listed topic (g.tag topic inheritance inherited)
    if path.contains topic then [.met (.cycle (g.topic topic).name), own]
    else
      (g.topic topic).includes.flatMap (walk g budget (topic :: path) inheritance false) ++
      (g.topic topic).inherits.flatMap (walk g budget (topic :: path) (inheritance + 1) true) ++
      [own]

/-- The walk from a topic that follows at most `limit` edges in a row. -/
def visits (g : Graph) (limit : Nat) (topic : TopicId) : List Visit :=
  g.walk (limit + 1) [] 0 false topic

/-- What a topic sees, before repeated triggers are collapsed. -/
structure Population where
  plain : List Entry
  previous : List Entry
  issues : List Issue
  deriving DecidableEq

/-- The population that a list of visits makes. -/
def populationOf (g : Graph) (visits : List Visit) : Population where
  plain := visits.flatMap (Visit.entries g .plain)
  previous := visits.flatMap (Visit.entries g .previous)
  issues := visits.filterMap Visit.issue?

def population (g : Graph) (limit : Nat) (topic : TopicId) : Population :=
  g.populationOf (g.visits limit topic)

end Graph
end Parley
