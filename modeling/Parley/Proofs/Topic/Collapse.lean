import Mathlib.Data.List.Induction
import Parley.Topic.Collapse

/-!
# What collapsing keeps

Of the entries of one trigger the collapsed list holds a single one, and that has the least of
their depths.
-/
namespace Parley.Entry

/-- No entry of the same trigger has less depth. -/
structure Shallowest (entries : List Entry) (entry : Entry) : Prop where
  mem : entry ∈ entries
  least : ∀ other ∈ entries, other.trigger = entry.trigger → entry.depth ≤ other.depth

@[simp] theorem entries_collapse (entries : List Entry) :
    (collapse entries).entries = distinct entries := rfl

theorem distinct_append_singleton (entries : List Entry) (entry : Entry) :
    distinct (entries ++ [entry]) = place entry (distinct entries) := by
  simp [distinct]

theorem mem_map_trigger_place (entry : Entry) (placed : List Entry) (trigger : TriggerId) :
    trigger ∈ (place entry placed).map Entry.trigger ↔
      trigger = entry.trigger ∨ trigger ∈ placed.map Entry.trigger := by
  induction placed with
  | nil => simp [place]
  | cons e rest ih =>
    by_cases h : e.trigger = entry.trigger
    · simp [place, h]
    · simp only [place, h, if_false, List.map_cons, List.mem_cons, ih]
      exact or_left_comm

theorem nodup_map_trigger_place (entry : Entry) {placed : List Entry}
    (h : (placed.map Entry.trigger).Nodup) :
    ((place entry placed).map Entry.trigger).Nodup := by
  induction placed with
  | nil => simp [place]
  | cons e rest ih =>
    rw [List.map_cons, List.nodup_cons] at h
    by_cases heq : e.trigger = entry.trigger
    · simpa [place, heq] using h
    · simp only [place, heq, if_false, List.map_cons, List.nodup_cons, mem_map_trigger_place]
      exact ⟨by simpa [heq] using h.1, ih h.2⟩

theorem nodup_map_trigger_distinct (entries : List Entry) :
    ((distinct entries).map Entry.trigger).Nodup := by
  induction entries using List.reverseRecOn with
  | nil => exact .nil
  | append_singleton entries entry ih =>
    rw [distinct_append_singleton]
    exact nodup_map_trigger_place entry ih

@[simp] theorem mem_map_trigger_distinct (entries : List Entry) (trigger : TriggerId) :
    trigger ∈ (distinct entries).map Entry.trigger ↔ trigger ∈ entries.map Entry.trigger := by
  induction entries using List.reverseRecOn with
  | nil => rfl
  | append_singleton entries entry ih =>
    rw [distinct_append_singleton, mem_map_trigger_place, ih]
    simp only [List.map_append, List.mem_append, List.map_cons, List.map_nil, List.mem_singleton]
    exact or_comm

/-- After an entry was placed, those of other triggers are old, and the one of its trigger has the
lesser depth of the entry and an older one, if there is an older one. -/
theorem of_mem_place {entry e : Entry} {placed : List Entry}
    (hnodup : (placed.map Entry.trigger).Nodup) (h : e ∈ place entry placed) :
    (e ∈ placed ∧ e.trigger ≠ entry.trigger) ∨
      (entry.trigger ∉ placed.map Entry.trigger ∧ e = entry) ∨
      ∃ old ∈ placed, old.trigger = entry.trigger ∧
        e = { old with depth := min old.depth entry.depth } := by
  induction placed with
  | nil => exact .inr (.inl ⟨by simp, by simpa [place] using h⟩)
  | cons first rest ih =>
    rw [List.map_cons, List.nodup_cons] at hnodup
    by_cases hfirst : first.trigger = entry.trigger
    · simp only [place, hfirst, if_true, List.mem_cons] at h
      obtain rfl | hrest := h
      · exact .inr (.inr ⟨first, by simp, hfirst, by rw [hfirst]⟩)
      · refine .inl ⟨List.mem_cons_of_mem _ hrest, fun htrigger => hnodup.1 ?_⟩
        rw [hfirst, ← htrigger]
        exact List.mem_map_of_mem hrest
    · simp only [place, hfirst, if_false, List.mem_cons] at h
      obtain rfl | hrest := h
      · exact .inl ⟨by simp, hfirst⟩
      · obtain ⟨hold, hne⟩ | ⟨hnew, heq⟩ | ⟨old, hold, hsame, heq⟩ := ih hnodup.2 hrest
        · exact .inl ⟨List.mem_cons_of_mem _ hold, hne⟩
        · refine .inr (.inl ⟨?_, heq⟩)
          rw [List.map_cons, List.mem_cons]
          exact not_or.mpr ⟨Ne.symm hfirst, hnew⟩
        · exact .inr (.inr ⟨old, List.mem_cons_of_mem _ hold, hsame, heq⟩)

theorem shallowest_of_mem_distinct {entries : List Entry} {e : Entry}
    (h : e ∈ distinct entries) : Shallowest entries e := by
  induction entries using List.reverseRecOn generalizing e with
  | nil => cases h
  | append_singleton entries entry ih =>
    rw [distinct_append_singleton] at h
    obtain ⟨hold, hne⟩ | ⟨hnew, rfl⟩ | ⟨old, hold, hsame, rfl⟩ :=
      of_mem_place (nodup_map_trigger_distinct entries) h
    · have hshallow := ih hold
      refine ⟨List.mem_append_left _ hshallow.mem, fun other hother htrigger => ?_⟩
      obtain hother | hother := List.mem_append.mp hother
      · exact hshallow.least other hother htrigger
      · obtain rfl := List.mem_singleton.mp hother
        exact absurd htrigger.symm hne
    · rw [mem_map_trigger_distinct] at hnew
      refine ⟨by simp, fun other hother htrigger => ?_⟩
      obtain hother | hother := List.mem_append.mp hother
      · exact absurd (htrigger ▸ List.mem_map_of_mem hother) hnew
      · exact Nat.le_of_eq (congrArg Entry.depth (List.mem_singleton.mp hother)).symm
    · have hshallow := ih hold
      constructor
      · obtain hle | hle := Nat.le_total old.depth entry.depth
        · rw [Nat.min_eq_left hle]
          exact List.mem_append_left _ hshallow.mem
        · rw [Nat.min_eq_right hle, hsame]
          exact List.mem_append_right _ (List.mem_singleton_self _)
      · intro other hother htrigger
        obtain hother | hother := List.mem_append.mp hother
        · exact Nat.le_trans (Nat.min_le_left _ _) (hshallow.least other hother htrigger)
        · rw [List.mem_singleton.mp hother]
          exact Nat.min_le_right _ _

/-- The collapsed list holds the shallowest entry of each trigger. -/
theorem mem_distinct_iff (entries : List Entry) (entry : Entry) :
    entry ∈ distinct entries ↔ Shallowest entries entry := by
  refine ⟨shallowest_of_mem_distinct, fun h => ?_⟩
  have htrigger : entry.trigger ∈ (distinct entries).map Entry.trigger := by
    rw [mem_map_trigger_distinct]
    exact List.mem_map_of_mem h.mem
  obtain ⟨kept, hkept, hsame⟩ := List.mem_map.mp htrigger
  have hshallow := shallowest_of_mem_distinct hkept
  have hdepth : kept.depth = entry.depth :=
    Nat.le_antisymm (hshallow.least entry h.mem hsame.symm) (h.least kept hshallow.mem hsame)
  rwa [← Entry.ext hsame hdepth]

end Parley.Entry
