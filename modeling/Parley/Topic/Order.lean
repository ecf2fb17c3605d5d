import Parley.Pattern.Specificity
import Parley.Topic.Graph

/-!
# The order of triggers

Entries are tried in the order of their ranks: less depth, more weight, then the specificity of
the pattern. Among triggers with a condition on the reply before, the specificity of that
condition comes first and that of the pattern second. The numbers of topic and trigger decide
between equals, so only equal entries have equal ranks.
-/
namespace Parley

/-- What decides the place of an entry. -/
structure Rank where
  depth : Nat
  weight : Nat
  primary : Specificity
  secondary : Option Specificity
  owner : TopicId
  trigger : TriggerId
  deriving DecidableEq

namespace Rank

def compare : Rank → Rank → Ordering :=
  compareLex (compareOn depth) <|
  compareLex (fun a b => compareOn weight b a) <|
  compareLex (compareOn primary) <|
  compareLex (compareOn secondary) <|
  compareLex (compareOn owner) <|
  compareOn trigger

def le (a b : Rank) : Bool := (a.compare b).isLE

end Rank

/-- The rank of an entry of this trigger in a listing of the given kind. -/
def Trigger.rank (t : Trigger) (kind : Kind) (entry : Entry) : Rank :=
  match kind, t.previous with
  | .previous, some previous =>
    ⟨entry.depth, t.pattern.weight, previous.specificity, some t.pattern.specificity, t.topic,
      entry.trigger⟩
  | _, _ =>
    ⟨entry.depth, t.pattern.weight, t.pattern.specificity, none, t.topic, entry.trigger⟩

namespace Graph

def rank (g : Graph) (kind : Kind) (entry : Entry) : Rank :=
  (g.trigger entry.trigger).rank kind entry

/-- The entries in the order of their ranks. -/
def sortEntries (g : Graph) (kind : Kind) (entries : List Entry) : List Entry :=
  ((entries.map fun entry => (g.rank kind entry, entry)).mergeSort
    fun a b => a.1.le b.1).map Prod.snd

end Graph
end Parley
