import Parley.Alignment.Search
import Parley.Bot.Basic

/-!
# Matching messages

A message is answered by the first entry of a topic's listing whose pattern aligns with all of its
words. If the reply before is known, the triggers with a condition are tried first: there the
condition has to align with that reply as well.
-/
namespace Parley

/-- The entry that answers a message, and what its patterns captured. -/
structure Hit where
  entry : Entry
  captures : List String
  previousCaptures : List String
  /-- Whether a condition on the reply before was met. -/
  contextual : Bool
  deriving DecidableEq

namespace Hit

/-- The hit that an entry makes with the words of a message. -/
def plain? (g : Graph) (arrays : Arrays) (message : List Word) (entry : Entry) : Option Hit :=
  ((g.trigger entry.trigger).pattern.align arrays message).map fun captures =>
    ⟨entry, captures, [], false⟩

/-- The hit that an entry makes with the words of a message and of the reply before. -/
def contextual? (g : Graph) (arrays : Arrays) (message reply : List Word) (entry : Entry) :
    Option Hit := do
  let t := g.trigger entry.trigger
  let previous ← t.previous
  let previousCaptures ← previous.align arrays reply
  let captures ← t.pattern.align arrays message
  return ⟨entry, captures, previousCaptures, true⟩

end Hit

/-- A match, spelled out. -/
structure Match where
  trigger : TriggerId
  /-- The topic in which the message was matched. -/
  topic : String
  /-- The topic that owns the trigger. -/
  owner : String
  pattern : String
  previous : Option String
  depth : Nat
  responses : List String
  captures : List String
  previousCaptures : List String
  deriving DecidableEq

/-- The item with this number, counted from one. -/
def nth? (items : List String) : Nat → Option String
  | 0 => none
  | n + 1 => items[n]?

namespace Match

def star? (m : Match) (n : Nat) : Option String := nth? m.captures n

def botstar? (m : Match) (n : Nat) : Option String := nth? m.previousCaptures n

end Match

namespace Bot

/-- The hit of a message among the entries of a listing. -/
def findHit? (b : Bot) (listing : Listing) (message : List Word) (reply : Option (List Word)) :
    Option Hit :=
  let contextual? := reply.bind fun reply =>
    listing.previous.findSome? (Hit.contextual? b.graph b.arrays message reply)
  match contextual? with
  | some hit => some hit
  | none => listing.plain.findSome? (Hit.plain? b.graph b.arrays message)

def spell (b : Bot) (topic : TopicId) (hit : Hit) : Match :=
  let t := b.graph.trigger hit.entry.trigger
  { trigger := hit.entry.trigger
    topic := (b.graph.topic topic).name
    owner := (b.graph.topic t.topic).name
    pattern := t.pattern.text
    previous := if hit.contextual then t.previous.map Pattern.text else none
    depth := hit.entry.depth
    responses := t.responses
    captures := hit.captures
    previousCaptures := hit.previousCaptures }

/-- Matches a message in a topic, after the reply `previous` if there was one. That nothing
matches is no error. -/
def matchMessage (b : Bot) (topic message : String) (previous : Option String) :
    Except Error (Option Match) := do
  let listing ← b.listing topic
  return (b.findHit? listing (Message.read message) (previous.map Message.read)).map
    (b.spell (b.graph.idOf topic))

end Bot
end Parley
