import Parley.Topic.Visibility

/-!
# The tree of a topic

The topics that edges lead to, each once, in the order of a depth-first traversal that starts with
the topic itself and goes to included topics before inherited ones. Where the traversal would go
deeper than the limit, it notes an issue instead, also for a topic that is listed already.
-/
namespace Parley.Graph

structure Tree where
  topics : List TopicId
  issues : List Issue
  deriving DecidableEq

/-- Goes on with the traversal at `topic`. -/
def growTree (g : Graph) : (budget : Nat) → (tree : Tree) → (topic : TopicId) → Tree
  | 0, tree, topic =>
    { tree with issues := tree.issues ++ [.depthExceeded (g.topic topic).name] }
  | budget + 1, tree, topic =>
    if tree.topics.contains topic then tree
    else
      ((g.topic topic).includes ++ (g.topic topic).inherits).foldl (growTree g budget)
        { tree with topics := tree.topics ++ [topic] }

def tree (g : Graph) (limit : Nat) (topic : TopicId) : Tree :=
  g.growTree (limit + 1) ⟨[], []⟩ topic

end Parley.Graph
