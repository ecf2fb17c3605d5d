import Parley.Topic.Graph

/-!
# The owner of a pattern

The search for the topic that owns a trigger goes from a topic to its inherited topics first and
then to the included ones, looking into each before going on from it. It starts beyond the first
topic, follows at most one edge more than the limit, and does not go on from a topic on its own
path.
-/
namespace Parley.Graph

/-- The owned trigger found from `topic`, where `budget` edges may still be followed. -/
def ownerFrom (g : Graph) (text : String) :
    (budget : Nat) → (path : List TopicId) → (topic : TopicId) → Option TriggerId
  | 0, _, _ => none
  | budget + 1, path, topic =>
    if path.contains topic then none
    else
      ((g.topic topic).inherits ++ (g.topic topic).includes).findSome? fun next =>
        match g.owned? next text with
        | some id => some id
        | none => ownerFrom g text budget (topic :: path) next

/-- The trigger whose pattern has this text, owned by a topic that edges lead to. -/
def owner? (g : Graph) (limit : Nat) (topic : TopicId) (text : String) : Option TriggerId :=
  g.ownerFrom text (limit + 1) [] topic

end Parley.Graph
