import Mathlib.Data.List.Nodup
import Parley.Proofs.Topic.Collapse
import Std.Data.HashMap

/-!
# Collapsing by occurrences

A collapsed list names the triggers in the order of their first occurrences. So it is collapsed once
and for all, and an array of entries with a table of the places of their triggers, which is filled
as the entries come and mended in place where a trigger comes again, holds it at any time.
-/
namespace Parley.Entry

variable {entry : Entry} {placed entries : List Entry}

/-- The entry with the lesser one of its depth and another. -/
def lower (e : Entry) (depth : Nat) : Entry := { e with depth := min e.depth depth }

theorem place_of_not_mem (h : entry.trigger ∉ placed.map Entry.trigger) :
    place entry placed = placed ++ [entry] := by
  induction placed with
  | nil => rfl
  | cons e rest ih =>
    obtain ⟨hne, hrest⟩ := not_or.mp (mt List.mem_cons.mpr h)
    rw [place, if_neg (Ne.symm hne), ih hrest, List.cons_append]

theorem place_of_idxOf?_eq_some {i : Nat}
    (h : (placed.map Entry.trigger).idxOf? entry.trigger = some i) :
    place entry placed = placed.modify i (·.lower entry.depth) := by
  induction placed generalizing i with
  | nil => cases h
  | cons e rest ih =>
    rw [List.map_cons, List.idxOf?_cons] at h
    by_cases heq : e.trigger = entry.trigger
    · obtain rfl : 0 = i := by simpa [heq] using h
      rw [place, if_pos heq]
      rfl
    · obtain ⟨j, hj, rfl⟩ : ∃ j, (rest.map Entry.trigger).idxOf? entry.trigger = some j ∧
          j + 1 = i := by simpa [heq] using h
      rw [place, if_neg heq, ih hj, List.modify_succ_cons]

theorem map_trigger_modify_lower (i depth : Nat) (entries : List Entry) :
    (entries.modify i (·.lower depth)).map Entry.trigger = entries.map Entry.trigger := by
  induction entries generalizing i with
  | nil => rw [List.modify_nil]
  | cons e rest ih =>
    cases i with
    | zero => rfl
    | succ i => rw [List.modify_succ_cons, List.map_cons, ih, List.map_cons]

theorem idxOf?_append_singleton {triggers : List TriggerId} {new : TriggerId}
    (h : new ∉ triggers) (trigger : TriggerId) : (triggers ++ [new]).idxOf? trigger =
      if new = trigger then some triggers.length else triggers.idxOf? trigger := by
  rw [List.idxOf?, List.findIdx?_append, ← List.idxOf?]
  by_cases heq : new = trigger
  · subst heq
    simp [List.idxOf?_eq_none_iff.mpr h]
  · simp [heq]

theorem map_trigger_distinct (entries : List Entry) :
    (distinct entries).map Entry.trigger = (entries.map Entry.trigger).eraseDups := by
  induction entries using List.reverseRecOn with
  | nil => rfl
  | append_singleton entries entry ih =>
    rw [distinct_append_singleton, List.map_append, List.eraseDups_append, ← ih, List.map_singleton,
      List.removeAll, List.filter_singleton]
    by_cases hold : entry.trigger ∈ entries.map Entry.trigger
    · have hplaced := (mem_map_trigger_distinct entries entry.trigger).mpr hold
      obtain ⟨i, hi⟩ := Option.isSome_iff_exists.mp (List.isSome_idxOf?.mpr hplaced)
      rw [place_of_idxOf?_eq_some hi, map_trigger_modify_lower]
      simp [hold]
    · rw [place_of_not_mem (mt (mem_map_trigger_distinct entries entry.trigger).mp hold)]
      simp [hold, List.eraseDups_cons]

/-- Where no trigger is repeated, there is nothing to collapse. -/
theorem distinct_of_nodup (h : (entries.map Entry.trigger).Nodup) : distinct entries = entries := by
  induction entries using List.reverseRecOn with
  | nil => rfl
  | append_singleton entries entry ih =>
    rw [List.map_append, List.map_singleton, List.nodup_append] at h
    obtain ⟨hbefore, _, hapart⟩ := h
    rw [distinct_append_singleton, ih hbefore, place_of_not_mem]
    exact fun hmem => hapart _ hmem _ (List.mem_singleton_self _) rfl

/-- Entries without repeated triggers, the place of each trigger among them, and how many others
were left out. -/
structure Table where
  kept : Array Entry
  places : Std.HashMap TriggerId Nat
  dropped : Nat

namespace Table

def empty : Table := ⟨#[], ∅, 0⟩

/-- Takes in one more entry: at the end, or into the one that has its trigger. -/
def add (table : Table) (entry : Entry) : Table :=
  match table.places[entry.trigger]? with
  | some i =>
    { table with
      kept := table.kept.modify i (·.lower entry.depth)
      dropped := table.dropped + 1 }
  | none =>
    { table with
      kept := table.kept.push entry
      places := table.places.insert entry.trigger table.kept.size }

def collapsed (table : Table) : Collapsed := ⟨table.kept.toList, table.dropped⟩

/-- A table has taken in some entries. -/
structure Holds (table : Table) (entries : List Entry) : Prop where
  kept : table.kept.toList = distinct entries
  places : ∀ trigger, table.places[trigger]? = ((distinct entries).map Entry.trigger).idxOf? trigger
  dropped : table.dropped + table.kept.size = entries.length

theorem holds_empty : empty.Holds [] := ⟨rfl, fun _ => by simp [empty, distinct], rfl⟩

/-- One step: either the table knows the place of the trigger, or the trigger is new. -/
theorem Holds.add {table : Table} (h : table.Holds entries) (entry : Entry) :
    (table.add entry).Holds (entries ++ [entry]) := by
  have hdropped := h.dropped
  have hplaces := h.places entry.trigger
  unfold Table.add
  cases hplace : table.places[entry.trigger]? with
  | some i =>
    have hmended := place_of_idxOf?_eq_some (hplaces.symm.trans hplace)
    refine ⟨?_, fun trigger => ?_, ?_⟩
    · rw [distinct_append_singleton, hmended, ← h.kept, Array.toList_modify]
    · rw [distinct_append_singleton, hmended, map_trigger_modify_lower]
      exact h.places trigger
    · simp only [Array.size_modify, List.length_append, List.length_singleton]
      omega
  | none =>
    rw [hplace] at hplaces
    have hnew := List.idxOf?_eq_none_iff.mp hplaces.symm
    have hsize : table.kept.size = ((distinct entries).map Entry.trigger).length := by
      rw [List.length_map, ← h.kept, Array.length_toList]
    refine ⟨?_, fun trigger => ?_, ?_⟩
    · rw [distinct_append_singleton, place_of_not_mem hnew, ← h.kept, Array.toList_push]
    · rw [distinct_append_singleton, place_of_not_mem hnew, List.map_append, List.map_singleton,
        idxOf?_append_singleton hnew, Std.HashMap.getElem?_insert, h.places, hsize]
      simp only [beq_iff_eq]
    · simp only [Array.size_push, List.length_append, List.length_singleton]
      omega

theorem holds_foldl (entries : List Entry) : (entries.foldl add empty).Holds entries := by
  induction entries using List.reverseRecOn with
  | nil => exact holds_empty
  | append_singleton entries entry ih =>
    rw [List.foldl_concat]
    exact ih.add entry

theorem Holds.collapsed_eq {table : Table} (h : table.Holds entries) :
    table.collapsed = collapse entries := by
  have hcount := dropped_add_length entries
  have hdropped := h.dropped
  rw [entries_collapse, ← h.kept, Array.length_toList] at hcount
  have heq : table.dropped = (collapse entries).dropped := by omega
  rw [collapsed, h.kept, heq]
  rfl

end Table

/-- A collapsed list holds each trigger once, at its first occurrence, with the least depth of all
its entries. Each entry is kept or counted, collapsing again changes nothing and counts nothing, and
the list is the one that is kept with a table of places. -/
theorem collapse_keeps_first (entries : List Entry) :
    let collapsed := collapse entries
    (collapsed.entries.map Entry.trigger).Nodup ∧
    collapsed.entries.map Entry.trigger = (entries.map Entry.trigger).eraseDups ∧
    (∀ entry, entry ∈ collapsed.entries ↔ Shallowest entries entry) ∧
    collapsed.dropped + collapsed.entries.length = entries.length ∧
    collapse collapsed.entries = ⟨collapsed.entries, 0⟩ ∧
    (entries.foldl Table.add .empty).collapsed = collapsed := by
  have hnodup := nodup_map_trigger_distinct entries
  refine ⟨hnodup, map_trigger_distinct entries, mem_distinct_iff entries,
    dropped_add_length entries, ?_, (Table.holds_foldl entries).collapsed_eq⟩
  have hagain : distinct (distinct entries) = distinct entries := distinct_of_nodup hnodup
  simp only [collapse, hagain, Nat.sub_self]

/-- Two triggers of which one comes three times, and last with the least depth. -/
example : collapse [⟨3, 2⟩, ⟨1, 0⟩, ⟨3, 4⟩, ⟨3, 0⟩] = ⟨[⟨3, 0⟩, ⟨1, 0⟩], 2⟩ := by decide

end Parley.Entry
