import Std.Data.HashSet

/-!
# Points of a search

A search through tokens and words stands at a point: so many tokens are left and so many words are
taken. The points it has passed are kept in the order of their first visit, with a hash set that
answers whether a point is among them.
-/
namespace Parley.Alignment

structure Point where
  tokensLeft : Nat
  position : Nat
  deriving DecidableEq, Hashable

structure Visited where
  /-- The points passed, latest first. -/
  order : List Point
  members : Std.HashSet Point
  contains_members : ∀ point, members.contains point = order.contains point

namespace Visited

def empty : Visited := ⟨[], ∅, fun _ => by simp⟩

def contains (visited : Visited) (point : Point) : Bool := visited.members.contains point

def insert (visited : Visited) (point : Point) : Visited where
  order := point :: visited.order
  members := visited.members.insert point
  contains_members other := by
    rw [Std.HashSet.contains_insert, visited.contains_members, List.contains_cons, BEq.comm]

@[simp] theorem contains_eq (visited : Visited) (point : Point) :
    visited.contains point = visited.order.contains point :=
  visited.contains_members point

@[simp] theorem order_empty : empty.order = [] := rfl

@[simp] theorem order_insert (visited : Visited) (point : Point) :
    (visited.insert point).order = point :: visited.order := rfl

end Visited
end Parley.Alignment
