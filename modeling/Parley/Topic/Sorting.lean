import Parley.Topic.Collapse
import Parley.Topic.Order
import Parley.Topic.Visibility

/-!
# Sorting a graph

For every topic the population it sees is collapsed and put in order, and the two lists are kept
with the topic. What was met on the way is reported, topic by topic, but not how long it took.
-/
namespace Parley

/-- What sorting found for one topic. -/
structure TopicReport where
  topic : String
  plain : Nat
  previous : Nat
  duplicates : Nat
  issues : List Issue
  deriving DecidableEq

abbrev SortReport := List TopicReport

namespace SortReport

def issues (report : SortReport) : List Issue := report.flatMap TopicReport.issues

/-- Whether a walk was cut short at the limit. -/
def hitLimit (report : SortReport) : Bool :=
  report.issues.any fun
    | .depthExceeded _ => true
    | .cycle _ => false

def find? (report : SortReport) (name : String) : Option TopicReport :=
  let key := Text.key name
  List.find? (fun topic : TopicReport => topic.topic == key) report

end SortReport

namespace Graph

/-- The listing of a topic and the report on it. -/
def list (g : Graph) (limit : Nat) (topic : TopicId) : Listing × TopicReport :=
  let population := g.population limit topic
  let plain := Entry.collapse population.plain
  let previous := Entry.collapse population.previous
  let listing : Listing :=
    ⟨g.sortEntries .plain plain.entries, g.sortEntries .previous previous.entries⟩
  (listing,
    { topic := (g.topic topic).name
      plain := listing.plain.length
      previous := listing.previous.length
      duplicates := plain.dropped + previous.dropped
      issues := population.issues })

/-- Keeps the listings that belong to the first topics. -/
def setListings (g : Graph) (listings : List (TopicId × Listing)) : Graph :=
  listings.foldl (fun g (topic, listing) => g.setListing topic listing) g

/-- Sorts all topics of a graph. -/
def sort (g : Graph) (limit : Nat) : Graph × SortReport :=
  let results := g.topicIds.map fun topic => (topic, g.list limit topic)
  (g.setListings (results.map fun (topic, result) => (topic, result.1)),
    results.map fun (_, result) => result.2)

end Graph
end Parley
