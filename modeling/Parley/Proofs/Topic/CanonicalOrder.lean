import Mathlib.Data.Prod.Lex
import Mathlib.Data.String.Basic
import Mathlib.Order.Compare
import Mathlib.Order.WithBot
import Parley.Proofs.Pattern.Specificity
import Parley.Proofs.Topic.Ranks

/-!
# One order for all listings

What decides the place of an entry is written down as one key, which is made from the tokens of the
patterns. Its parts have the usual orders of numbers and texts, turned around where more comes
first, and are compared from left to right, so the keys have a linear order. Ranks compare as the
keys do, and different entries have different keys. Hence there is one way to put entries in order,
whatever order they come in.
-/
namespace Parley
open OrderDual

/-- The keys of a pattern: its band, more given words first, a longer text first, and the text. -/
abbrev PatternKey := Nat ×ₗ Natᵒᵈ ×ₗ Natᵒᵈ ×ₗ String

/-- The keys of an entry: its depth, more weight first, the keys of the pattern that counts first
and of the one that counts next, if there is one, and the numbers of the owner and the trigger. -/
abbrev EntryKey := Nat ×ₗ Natᵒᵈ ×ₗ PatternKey ×ₗ WithBot PatternKey ×ₗ TopicId ×ₗ TriggerId

namespace Pattern

def key (p : Pattern) : PatternKey :=
  toLex (p.bandNumber,
    toLex (toDual p.givenWords.length, toLex (toDual p.spelling.length, p.spelling)))

theorem key_eq (p : Pattern) : p.key =
    toLex (p.band.rank, toLex (toDual p.literalCount, toLex (toDual p.text.length, p.text))) := by
  rw [key, bandNumber_eq, length_givenWords, spelling_eq]

/-- The keys of a pattern that may be missing, which comes first. -/
def key? : Option Pattern → WithBot PatternKey
  | none => ⊥
  | some p => p.key

theorem specificity_inj {p q : Pattern} : p.specificity = q.specificity ↔ p.key = q.key := by
  simp [specificity, key_eq, Band.rank_eq_iff]

theorem precedes_iff_key_lt {p q : Pattern} :
    p.specificity.Precedes q.specificity ↔ p.key < q.key := by
  simp only [Specificity.Precedes, specificity, key_eq, Prod.Lex.toLex_lt_toLex, toDual_lt_toDual,
    toDual_inj, Band.rank_eq_iff]

theorem map_specificity_inj {p q : Option Pattern} :
    p.map specificity = q.map specificity ↔ key? p = key? q := by
  cases p <;> cases q <;> simp [key?, specificity_inj]

theorem map_precedes_iff_key?_lt {p q : Option Pattern} :
    Option.lt Specificity.Precedes (p.map specificity) (q.map specificity) ↔ key? p < key? q := by
  cases p <;> cases q <;> simp [Option.lt, key?, precedes_iff_key_lt]

end Pattern

namespace Trigger

/-- The pattern that counts first: among triggers with a condition it is the condition. -/
def primary (t : Trigger) : Kind → Pattern
  | .plain => t.pattern
  | .previous => t.previous.getD t.pattern

/-- The pattern that counts after a condition. -/
def secondary (t : Trigger) : Kind → Option Pattern
  | .plain => none
  | .previous => t.previous.map fun _ => t.pattern

end Trigger

namespace Graph

/-- What decides the place of an entry in a listing of the given kind. -/
def key (g : Graph) (kind : Kind) (entry : Entry) : EntryKey :=
  let t := g.trigger entry.trigger
  toLex (entry.depth, toLex (toDual t.pattern.weight, toLex ((t.primary kind).key,
    toLex (Pattern.key? (t.secondary kind), toLex (t.topic, entry.trigger)))))

theorem rank_eq (g : Graph) (kind : Kind) (entry : Entry) :
    g.rank kind entry = ⟨entry.depth, (g.trigger entry.trigger).pattern.weight,
      ((g.trigger entry.trigger).primary kind).specificity,
      ((g.trigger entry.trigger).secondary kind).map Pattern.specificity,
      (g.trigger entry.trigger).topic, entry.trigger⟩ := by
  cases kind with
  | plain => rfl
  | previous =>
    cases h : (g.trigger entry.trigger).previous with
    | none => simp [rank, Trigger.rank, Trigger.primary, Trigger.secondary, h]
    | some condition => simp [rank, Trigger.rank, Trigger.primary, Trigger.secondary, h]

variable {g : Graph} {kind : Kind} {a b : Entry}

theorem precedes_iff_key_lt :
    (g.rank kind a).Precedes (g.rank kind b) ↔ g.key kind a < g.key kind b := by
  simp only [Rank.Precedes, rank_eq, key, Prod.Lex.toLex_lt_toLex, toDual_lt_toDual, toDual_inj,
    Pattern.precedes_iff_key_lt, Pattern.specificity_inj, Pattern.map_precedes_iff_key?_lt,
    Pattern.map_specificity_inj]

/-- Only an entry itself has its key. -/
theorem key_injective (g : Graph) (kind : Kind) : Function.Injective (g.key kind) := by
  intro a b h
  simp only [key, toLex_inj, Prod.mk.injEq] at h
  exact Entry.ext h.2.2.2.2.2 h.1

/-- Ranks compare as the keys do. -/
theorem compare_rank (g : Graph) (kind : Kind) (a b : Entry) :
    (g.rank kind a).compare (g.rank kind b) = compare (g.key kind a) (g.key kind b) := by
  refine ((compare_iff _ _).mpr ?_).symm
  cases h : (g.rank kind a).compare (g.rank kind b) with
  | lt => exact precedes_iff_key_lt.mp (Rank.compare_eq_lt_iff.mp h)
  | eq =>
    have hle : (g.rank kind a).le (g.rank kind b) = true := by rw [Rank.le, h]; rfl
    obtain hlt | ⟨hdepth, htrigger⟩ := Rank.precedes_or_of_le hle
    · rw [← Rank.compare_eq_lt_iff, h] at hlt
      cases hlt
    · rw [depth_rank, depth_rank] at hdepth
      rw [trigger_rank, trigger_rank] at htrigger
      exact congrArg (g.key kind) (Entry.ext htrigger hdepth)
  | gt =>
    have hswap := Rank.compare_swap (g.rank kind a) (g.rank kind b)
    rw [h] at hswap
    exact precedes_iff_key_lt.mp (Rank.compare_eq_lt_iff.mp hswap.symm)

theorem le_rank_iff : (g.rank kind a).le (g.rank kind b) = true ↔ g.key kind a ≤ g.key kind b := by
  rw [Rank.le, compare_rank, ← Ordering.ne_gt_iff_isLE]
  exact compare_le_iff_le

/-- Sorting entries is putting them in the order of their keys. The result has the same entries, and
it is the same for every order in which they come, because only equal entries compare as equal. -/
theorem entries_have_one_order (g : Graph) (kind : Kind) (entries : List Entry) :
    (g.sortEntries kind entries).Perm entries ∧
    (g.sortEntries kind entries).Pairwise (fun a b => g.key kind a ≤ g.key kind b) ∧
    (∀ a b, (g.rank kind a).compare (g.rank kind b) = compare (g.key kind a) (g.key kind b)) ∧
    (∀ a b, (g.rank kind a).compare (g.rank kind b) = .eq ↔ a = b) ∧
    ∀ others, g.sortEntries kind others = g.sortEntries kind entries ↔ others.Perm entries := by
  refine ⟨g.sortEntries_perm kind entries, ?_, g.compare_rank kind, ?_, ?_⟩
  · exact (g.pairwise_sortEntries kind entries).imp le_rank_iff.mp
  · intro a b
    rw [compare_rank, compare_eq_iff_eq, (g.key_injective kind).eq_iff]
  · intro others
    constructor
    · intro h
      have hothers := g.sortEntries_perm kind others
      rw [h] at hothers
      exact hothers.symm.trans (g.sortEntries_perm kind entries)
    · exact sortEntries_congr

end Graph
end Parley
