import Parley.Message
import Parley.Proofs.Text.LowerCase

/-!
# Messages fall apart at separators

A separator takes no part in case, so what stands on its other side makes no difference to the form
of a letter, not even to that of a sigma. And no word goes across a separator. So a message with a
separator in it is read as two messages.
-/
namespace Parley.Message
open Parley.Unicode

theorem isCaseless_of_isSeparator {c : Char} (hc : isSeparator c = true) : IsCaseless c := by
  simp only [isSeparator, Bool.or_eq_true, beq_iff_eq] at hc
  obtain (((hc | rfl) | rfl) | rfl) | rfl := hc
  · exact isCaseless_of_isWhiteSpace hc
  · decide +kernel
  · decide +kernel
  · decide +kernel
  · decide +kernel

theorem split_append_cons {c : Char} (hc : isSeparator c = true) (left right : List Char) :
    split (left ++ c :: right) = split left ++ split right := by
  rw [split, Text.pieces_append_cons _ _ _ _ hc, List.filterMap_append]
  rfl

/-- A message with a separator in it has the words of what stands before the separator, followed by
the words of what stands behind it: the same words in both their forms, and so the same in whether
they are alphabetic or numeric. -/
theorem read_append_separator (left right : String) {c : Char} (hc : isSeparator c = true) :
    read (left ++ String.singleton c ++ right) = read left ++ read right := by
  have htext : (left ++ String.singleton c ++ right).toList = left.toList ++ c :: right.toList := by
    simp
  rw [read, htext, (isCaseless_of_isSeparator hc).lowercase_append, split_append_cons hc]
  rfl

/-- A sigma is final before a comma, and one that begins a word behind it is not. -/
theorem read_append_separator_sigma :
    isSeparator ',' = true ∧
      read ("Ο ΔΗΜΟΣ" ++ String.singleton ',' ++ "ΣΟΦΟΣ.") =
        read "Ο ΔΗΜΟΣ" ++ read "ΣΟΦΟΣ." ∧
      read "Ο ΔΗΜΟΣ" ++ read "ΣΟΦΟΣ." = [⟨"ο", "ο"⟩, ⟨"δημος", "δημος"⟩, ⟨"σοφος.", "σοφος"⟩] :=
  ⟨by decide, read_append_separator "Ο ΔΗΜΟΣ" "ΣΟΦΟΣ." (by decide), by decide +kernel⟩

end Parley.Message
