/-!
# Sets of characters as tables of intervals

A property of characters is a table of closed intervals of code points, disjoint and in increasing
order, so that a search ends at the first interval that begins beyond the code point it looks for.
-/
namespace Parley.Unicode

/-- Whether `code` lies in one of the intervals of an increasing table. -/
def within : List (Nat × Nat) → Nat → Bool
  | [], _ => false
  | (first, last) :: rest, code => first ≤ code && (code ≤ last || within rest code)

/-- What a table holds lies in one of its intervals. -/
theorem exists_of_within {table : List (Nat × Nat)} {code : Nat} (h : within table code = true) :
    ∃ interval ∈ table, interval.1 ≤ code ∧ code ≤ interval.2 := by
  induction table with
  | nil => simp [within] at h
  | cons interval rest ih =>
    simp only [within, Bool.and_eq_true, Bool.or_eq_true, decide_eq_true_eq] at h
    obtain ⟨first, last | later⟩ := h
    · exact ⟨interval, by simp, first, last⟩
    · obtain ⟨other, member, bounds⟩ := ih later
      exact ⟨other, by simp [member], bounds⟩

end Parley.Unicode
