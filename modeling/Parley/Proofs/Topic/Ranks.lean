import Mathlib.Data.List.Basic
import Parley.Topic.Order

/-!
# Ranks order the entries of a listing

The comparison of ranks is written out key by key, and it is a total order in which different
entries differ. So sorting has one result for all orders of the same entries.
-/
namespace Parley

/-- A specificity comes before another one: band, more literals, greater length, text. -/
def Specificity.Precedes (a b : Specificity) : Prop :=
  a.band.rank < b.band.rank ∨ a.band = b.band ∧
    (b.literals < a.literals ∨ a.literals = b.literals ∧
      (b.length < a.length ∨ a.length = b.length ∧ a.text < b.text))

/-- A rank comes before another one: less depth, more weight, the specificities, the numbers. -/
def Rank.Precedes (a b : Rank) : Prop :=
  a.depth < b.depth ∨ a.depth = b.depth ∧
    (b.weight < a.weight ∨ a.weight = b.weight ∧
      (a.primary.Precedes b.primary ∨ a.primary = b.primary ∧
        (Option.lt Specificity.Precedes a.secondary b.secondary ∨ a.secondary = b.secondary ∧
          (a.owner < b.owner ∨ a.owner = b.owner ∧ a.trigger < b.trigger))))

theorem compareLex_eq_lt {α : Type} {first second : α → α → Ordering} {a b : α} :
    compareLex first second a b = .lt ↔
      first a b = .lt ∨ first a b = .eq ∧ second a b = .lt := by
  simp [compareLex, Ordering.then_eq_lt]

theorem Band.rank_eq_iff {a b : Band} : a.rank = b.rank ↔ a = b := by
  cases a <;> cases b <;> simp [rank]

theorem compare_text_eq_lt {a b : String} : compare a b = .lt ↔ a < b := by
  change compareOfLessAndEq a b = .lt ↔ a < b
  exact compareOfLessAndEq_eq_lt

namespace Specificity

instance : Std.TransCmp compare := by
  unfold compare
  infer_instance

instance : Std.TransOrd Specificity := inferInstanceAs (Std.TransCmp compare)

instance : Std.LawfulEqCmp compare where
  eq_of_compare {a b} h := by
    simp only [compare, compareLex_eq_eq, compareOn, Band.rank_eq_iff,
      Std.LawfulEqOrd.compare_eq_iff_eq] at h
    obtain ⟨hband, hliterals, hlength, htext⟩ := h
    cases a
    cases b
    cases hband
    cases hliterals
    cases hlength
    cases htext
    rfl

instance : Std.LawfulEqOrd Specificity := inferInstanceAs (Std.LawfulEqCmp compare)

theorem compare_eq_lt_iff {a b : Specificity} : a.compare b = .lt ↔ a.Precedes b := by
  simp only [compare, compareLex_eq_lt, compareOn, Nat.compare_eq_lt, Nat.compare_eq_eq,
    compare_text_eq_lt, Precedes, Band.rank_eq_iff, @eq_comm _ a.literals, @eq_comm _ a.length]

end Specificity

namespace Rank

instance : Std.TransCmp compare := by
  unfold compare
  infer_instance

theorem compare_secondary_eq_lt_iff {a b : Option Specificity} :
    Ord.compare a b = .lt ↔ Option.lt Specificity.Precedes a b := by
  cases a with
  | none => cases b <;> simp [Ord.compare, Option.lt]
  | some a =>
    cases b with
    | none => simp [Ord.compare, Option.lt]
    | some b => exact Specificity.compare_eq_lt_iff

theorem compare_eq_lt_iff {a b : Rank} : a.compare b = .lt ↔ a.Precedes b := by
  have hprimary : Ord.compare a.primary b.primary = .lt ↔ a.primary.Precedes b.primary :=
    Specificity.compare_eq_lt_iff
  simp only [compare, compareLex_eq_lt, compareOn, Nat.compare_eq_lt, hprimary,
    compare_secondary_eq_lt_iff, Std.LawfulEqOrd.compare_eq_iff_eq, Precedes, @eq_comm _ a.weight]

theorem compare_swap (a b : Rank) : (a.compare b).swap = b.compare a :=
  (Std.OrientedCmp.eq_swap).symm

theorem le_trans {a b c : Rank} (hab : a.le b = true) (hbc : b.le c = true) : a.le c = true :=
  Std.TransCmp.isLE_trans hab hbc

theorem le_total (a b : Rank) : (a.le b || b.le a) = true := by
  rw [le, le, ← compare_swap a b]
  cases a.compare b <;> rfl

theorem le_refl (a : Rank) : a.le a = true := by
  simpa using le_total a a

/-- A rank that is no greater comes before the other one, unless no key tells them apart. -/
theorem precedes_or_of_le {a b : Rank} (h : a.le b = true) :
    a.Precedes b ∨ a.depth = b.depth ∧ a.trigger = b.trigger := by
  rw [le, Ordering.isLE_iff_eq_lt_or_eq_eq, compare_eq_lt_iff] at h
  obtain h | h := h
  · exact .inl h
  · simp only [compare, compareLex_eq_eq, compareOn, Nat.compare_eq_eq] at h
    exact .inr ⟨h.1, h.2.2.2.2.2⟩

theorem Precedes.asymm {a b : Rank} (h : a.Precedes b) : ¬ b.Precedes a := by
  rw [← compare_eq_lt_iff] at h ⊢
  rw [← compare_swap, h]
  decide

end Rank

namespace Graph

@[simp] theorem depth_rank (g : Graph) (kind : Kind) (entry : Entry) :
    (g.rank kind entry).depth = entry.depth := by
  simp only [rank, Trigger.rank]
  split <;> rfl

@[simp] theorem trigger_rank (g : Graph) (kind : Kind) (entry : Entry) :
    (g.rank kind entry).trigger = entry.trigger := by
  simp only [rank, Trigger.rank]
  split <;> rfl

/-- An entry whose rank is no greater than that of another entry comes before it. -/
theorem precedes_of_le_of_ne {g : Graph} {kind : Kind} {a b : Entry}
    (h : (g.rank kind a).le (g.rank kind b) = true) (hne : a ≠ b) :
    (g.rank kind a).Precedes (g.rank kind b) := by
  obtain h | ⟨hdepth, htrigger⟩ := Rank.precedes_or_of_le h
  · exact h
  · rw [depth_rank, depth_rank] at hdepth
    rw [trigger_rank, trigger_rank] at htrigger
    exact absurd (Entry.ext htrigger hdepth) hne

/-- The ranks are only computed once, which makes no difference to the order. -/
theorem sortEntries_eq_mergeSort (g : Graph) (kind : Kind) (entries : List Entry) :
    g.sortEntries kind entries =
      entries.mergeSort fun a b => (g.rank kind a).le (g.rank kind b) := by
  have h := List.map_mergeSort (l := entries) (f := fun entry => (g.rank kind entry, entry))
    (r := fun a b => (g.rank kind a).le (g.rank kind b)) (s := fun a b => a.1.le b.1)
    fun _ _ _ _ => rfl
  rw [sortEntries, ← h, List.map_map]
  exact List.map_id _

theorem sortEntries_perm (g : Graph) (kind : Kind) (entries : List Entry) :
    (g.sortEntries kind entries).Perm entries := by
  rw [sortEntries_eq_mergeSort]
  exact List.mergeSort_perm _ _

@[simp] theorem mem_sortEntries {g : Graph} {kind : Kind} {entries : List Entry}
    {entry : Entry} : entry ∈ g.sortEntries kind entries ↔ entry ∈ entries :=
  (g.sortEntries_perm kind entries).mem_iff

theorem pairwise_sortEntries (g : Graph) (kind : Kind) (entries : List Entry) :
    (g.sortEntries kind entries).Pairwise
      fun a b => (g.rank kind a).le (g.rank kind b) = true := by
  rw [sortEntries_eq_mergeSort]
  apply List.pairwise_mergeSort
  · intro a b c hab hbc
    exact Rank.le_trans hab hbc
  · intro a b
    exact Rank.le_total (g.rank kind a) (g.rank kind b)

/-- The same entries in any order give the same listing. -/
theorem sortEntries_congr {g : Graph} {kind : Kind} {a b : List Entry} (h : a.Perm b) :
    g.sortEntries kind a = g.sortEntries kind b := by
  refine List.Perm.eq_of_pairwise ?_ (g.pairwise_sortEntries kind a)
    (g.pairwise_sortEntries kind b)
    (((g.sortEntries_perm kind a).trans h).trans (g.sortEntries_perm kind b).symm)
  intro x y _ _ hxy hyx
  by_contra hne
  exact (precedes_of_le_of_ne hxy hne).asymm (precedes_of_le_of_ne hyx (Ne.symm hne))

end Graph
end Parley
