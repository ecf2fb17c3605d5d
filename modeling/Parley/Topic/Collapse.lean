import Parley.Topic.Graph

/-!
# Collapsing repeated triggers

A trigger that is reached on several ways is listed once, at the place where it was met first and
with the least of its depths. The copies that are left out are counted.
-/
namespace Parley.Entry

/-- Adds an entry to a list without repeated triggers. -/
def place (entry : Entry) : List Entry → List Entry
  | [] => [entry]
  | e :: rest =>
    if e.trigger = entry.trigger then { e with depth := min e.depth entry.depth } :: rest
    else e :: place entry rest

/-- The entries with each trigger once. -/
def distinct (entries : List Entry) : List Entry :=
  entries.foldl (fun placed entry => place entry placed) []

theorem length_place_le (entry : Entry) (placed : List Entry) :
    (place entry placed).length ≤ placed.length + 1 := by
  induction placed with
  | nil => simp [place]
  | cons e rest ih =>
    simp only [place]
    split
    · simp
    · simpa using ih

theorem length_distinct_le (entries : List Entry) :
    (distinct entries).length ≤ entries.length := by
  suffices ∀ placed : List Entry,
      (entries.foldl (fun placed entry => place entry placed) placed).length ≤
        placed.length + entries.length by
    simpa [distinct] using this []
  induction entries with
  | nil => simp
  | cons entry rest ih =>
    intro placed
    have step := length_place_le entry placed
    have later := ih (place entry placed)
    simp only [List.foldl_cons, List.length_cons]
    omega

structure Collapsed where
  entries : List Entry
  dropped : Nat
  deriving DecidableEq

def collapse (entries : List Entry) : Collapsed :=
  let kept := distinct entries
  ⟨kept, entries.length - kept.length⟩

/-- Every entry is kept or counted. -/
theorem dropped_add_length (entries : List Entry) :
    (collapse entries).dropped + (collapse entries).entries.length = entries.length :=
  Nat.sub_add_cancel (length_distinct_le entries)

end Parley.Entry
