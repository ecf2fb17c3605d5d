import Parley.Proofs.Text.Trimming
import Parley.Proofs.Unicode.SmallLetters
import Parley.Text.Strings

/-!
# Keys of names

The key of a name is the name trimmed and then put into lower case. No lower case form is white
space unless the character was, so lower case keeps what a trimmed text begins and ends with, and a
key is its own key.
-/
namespace Parley.Text
open Parley.Unicode

/-- No interval of white space meets the forms of a run. -/
theorem visible_table : (lowercaseRuns.all fun run => whiteSpaceTable.all fun interval =>
    run.targetLast.blt interval.1 || interval.2.blt run.target) = true := by
  decide +kernel

theorem isWhiteSpace_form {run : CaseRun} {code : Nat} (hrun : run ∈ lowercaseRuns)
    (hcode : run.Holds code) :
    isWhiteSpace (Char.ofNat (run.target + (code - run.first))) = false := by
  have hvalid := valid_table run hrun
  have hlast := hcode.2.1
  have htable := List.all_eq_true.mp visible_table run hrun
  rw [CaseRun.targetLast] at hvalid
  cases hwhite : isWhiteSpace (Char.ofNat (run.target + (code - run.first))) with
  | false => rfl
  | true =>
    obtain ⟨interval, hinterval, hfirst', hlast'⟩ := exists_of_within hwhite
    have happart := List.all_eq_true.mp htable interval hinterval
    rw [toNat_ofNat (by omega)] at hfirst' hlast'
    simp only [Bool.or_eq_true, Nat.blt_eq, CaseRun.targetLast] at happart
    omega

theorem solid_lowerChar {c : Char} (hc : isWhiteSpace c = false) : Solid (lowerChar c) := by
  rw [lowerChar]
  split
  · exact by decide +kernel
  · refine ⟨by simp, fun d hd => ?_⟩
    obtain heq | ⟨run, hrun, hholds, heq⟩ := lowerCode_cases lowercaseRuns c.toNat
    · rw [heq, Char.ofNat_toNat, List.mem_singleton] at hd
      rw [hd]
      exact hc
    · rw [heq, List.mem_singleton] at hd
      rw [hd]
      exact isWhiteSpace_form hrun hholds

/-- Wherever it stands, a character that is no white space becomes a solid text. -/
theorem exists_lowercaseAfter_cons {c : Char} (hc : isWhiteSpace c = false)
    (before rest : List Char) : ∃ form, Solid form ∧
      lowercaseAfter before (c :: rest) = form ++ lowercaseAfter (c :: before) rest := by
  rw [lowercaseAfter]
  split
  · refine ⟨_, ?_, rfl⟩
    split
    · exact by decide
    · exact by decide
  · exact ⟨_, solid_lowerChar hc, rfl⟩

theorem exists_lowercaseAfter_append {c : Char} (hc : isWhiteSpace c = false)
    (before front : List Char) : ∃ rest d,
      lowercaseAfter before (front ++ [c]) = rest ++ [d] ∧ isWhiteSpace d = false := by
  induction front generalizing before with
  | nil =>
    obtain ⟨form, hform, heq⟩ := exists_lowercaseAfter_cons hc before []
    obtain ⟨rest, d, hlast, hd⟩ := hform.framed.last
    refine ⟨rest, d, ?_, hd⟩
    rw [List.nil_append, heq, hlast, lowercaseAfter, List.append_nil]
  | cons first front ih =>
    obtain ⟨rest, d, hlast, hd⟩ := ih (first :: before)
    rw [List.cons_append, lowercaseAfter, hlast, ← List.append_assoc]
    exact ⟨_, d, rfl, hd⟩

theorem Framed.lowercase {text : List Char} (h : Framed text) : Framed (lowercase text) := by
  constructor
  · obtain ⟨c, rest, rfl, hc⟩ := h.first
    obtain ⟨form, hform, heq⟩ := exists_lowercaseAfter_cons hc [] rest
    obtain ⟨d, rest', hfirst, hd⟩ := hform.framed.first
    refine ⟨d, rest' ++ lowercaseAfter [c] rest, ?_, hd⟩
    rw [Unicode.lowercase, heq, hfirst, List.cons_append]
  · obtain ⟨front, c, rfl, hc⟩ := h.last
    exact exists_lowercaseAfter_append hc [] front

theorem toList_key (name : String) : (key name).toList = lowercase (trim name.toList) :=
  String.toList_ofList

/-- A key is its own key. -/
@[simp] theorem key_key (name : String) : key (key name) = key name := by
  have htrim : trim (lowercase (trim name.toList)) = lowercase (trim name.toList) := by
    obtain hnil | hframed := trim_eq_nil_or_framed name.toList
    · rw [hnil]
      rfl
    · exact hframed.lowercase.trim_eq
  rw [key, toList_key, htrim, lowercase_lowercase]
  rfl

end Parley.Text
