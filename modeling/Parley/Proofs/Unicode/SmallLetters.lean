import Mathlib.Tactic.SplitIfs
import Parley.Unicode.Lowercase

/-!
# Small letters stay small

A lower case form is never itself a capital, so what was put into lower case is made of characters
that have no other form: putting it into lower case again, whole or in pieces and in any order,
changes nothing. Nor is a form ever a sign of ASCII, so signs that are there afterwards were there
before. Both follow from comparing the table with itself, run by run.
-/
namespace Parley.Unicode

namespace CaseRun

/-- The code points of the capitals of a run. -/
def Holds (run : CaseRun) (code : Nat) : Prop :=
  run.first ≤ code ∧ code ≤ run.last ∧ (code - run.first) % run.step = 0

instance (run : CaseRun) (code : Nat) : Decidable (run.Holds code) :=
  inferInstanceAs (Decidable (_ ∧ _ ∧ _))

/-- The last of the code points that a run maps to. -/
def targetLast (run : CaseRun) : Nat := run.target + (run.last - run.first)

/-- A test that no form of one run is a capital of another: the forms lie on one side of the
capitals, or between them because those are every second code point. -/
def apart (run other : CaseRun) : Bool :=
  run.targetLast.blt other.first || other.last.blt run.target ||
    ((run.step.beq 2 || run.first.beq run.last) && other.step.beq 2 &&
      ((run.target + other.first) % 2).beq 1)

theorem not_holds_of_apart {run other : CaseRun} {code : Nat} (h : run.apart other = true)
    (hcode : run.Holds code) : ¬ other.Holds (run.target + (code - run.first)) := by
  obtain ⟨hfirst, hlast, hstep⟩ := hcode
  rintro ⟨hfirst', hlast', hstep'⟩
  simp only [apart, Bool.or_eq_true, Bool.and_eq_true, Nat.blt_eq, Nat.beq_eq] at h
  rw [targetLast] at h
  obtain (hbefore | hbehind) | ⟨⟨htwo | hone, htwo'⟩, hodd⟩ := h
  · omega
  · omega
  · rw [htwo] at hstep
    rw [htwo'] at hstep'
    omega
  · rw [htwo'] at hstep'
    omega

end CaseRun

theorem lowerCode_cases (runs : List CaseRun) (code : Nat) :
    lowerCode runs code = code ∨ ∃ run ∈ runs, run.Holds code ∧
      lowerCode runs code = run.target + (code - run.first) := by
  induction runs with
  | nil => exact .inl rfl
  | cons run rest ih =>
    rw [lowerCode]
    split_ifs with hfirst hlast hstep
    · exact .inl rfl
    · exact .inr ⟨run, by simp, ⟨Nat.le_of_not_lt hfirst, hlast, hstep⟩, rfl⟩
    · exact .inl rfl
    · exact ih.imp_right fun ⟨run', hmem, h⟩ => ⟨run', List.mem_cons_of_mem _ hmem, h⟩

theorem lowerCode_eq_self {runs : List CaseRun} {code : Nat}
    (h : ∀ run ∈ runs, ¬ run.Holds code) : lowerCode runs code = code := by
  obtain heq | ⟨run, hmem, hholds, _⟩ := lowerCode_cases runs code
  · exact heq
  · exact absurd hholds (h run hmem)

/-- Code points that no form has, though they are no capitals of the table: ASCII without its small
letters, and the two capitals with a mapping of their own. -/
def reservedRuns : List CaseRun := [
  ⟨0x00, 0x60, 1, 0⟩, ⟨0x7B, 0x7F, 1, 0⟩, ⟨0x130, 0x130, 1, 0⟩, ⟨0x3A3, 0x3A3, 1, 0⟩]

theorem apart_table :
    (lowercaseRuns.all fun run => (reservedRuns ++ lowercaseRuns).all run.apart) = true := by
  decide +kernel

theorem valid_table : ∀ run ∈ lowercaseRuns,
    run.targetLast < 0xD800 ∨ 0xDFFF < run.target ∧ run.targetLast < 0x110000 := by
  decide +kernel

/-- A character that is neither reserved nor a capital of the table. -/
def Settled (c : Char) : Prop := ∀ run ∈ reservedRuns ++ lowercaseRuns, ¬ run.Holds c.toNat

instance (c : Char) : Decidable (Settled c) := inferInstanceAs (Decidable (∀ run ∈ _, _))

/-- A character that keeps its form in lower case, wherever it stands. -/
structure IsSmall (c : Char) : Prop where
  ne_sigma : c ≠ 'Σ'
  form : lowerChar c = [c]

theorem Settled.isSmall {c : Char} (h : Settled c) : IsSmall c := by
  have hdotted : c ≠ '\u0130' := by
    rintro rfl
    exact h ⟨0x130, 0x130, 1, 0⟩ (by simp [reservedRuns]) (by decide)
  refine ⟨?_, ?_⟩
  · rintro rfl
    exact h ⟨0x3A3, 0x3A3, 1, 0⟩ (by simp [reservedRuns]) (by decide)
  · rw [lowerChar, if_neg hdotted,
      lowerCode_eq_self fun run hrun => h run (List.mem_append_right _ hrun), Char.ofNat_toNat]

theorem toNat_ofNat {code : Nat} (h : code < 0xD800 ∨ 0xDFFF < code ∧ code < 0x110000) :
    (Char.ofNat code).toNat = code := by
  rw [Char.ofNat, dif_pos (show code.isValidChar from h)]
  rfl

/-- A capital of the table has a settled form. -/
theorem settled_of_holds {run : CaseRun} {code : Nat} (hrun : run ∈ lowercaseRuns)
    (hcode : run.Holds code) : Settled (Char.ofNat (run.target + (code - run.first))) := by
  have hrange := valid_table run hrun
  have hlast := hcode.2.1
  rw [CaseRun.targetLast] at hrange
  intro other hother
  have hapart := List.all_eq_true.mp (List.all_eq_true.mp apart_table run hrun) other hother
  rw [toNat_ofNat (by omega)]
  exact CaseRun.not_holds_of_apart hapart hcode

theorem settled_of_mem_lowerChar {c d : Char} (h : d ∈ lowerChar c) :
    (d = c ∧ lowerChar c = [c]) ∨ Settled d := by
  rw [lowerChar] at h ⊢
  split_ifs at h ⊢ with hdotted
  · simp only [List.mem_cons, List.not_mem_nil, or_false] at h
    obtain rfl | rfl := h
    · exact .inr (by decide +kernel)
    · exact .inr (by decide +kernel)
  · rw [List.mem_singleton] at h
    obtain heq | ⟨run, hrun, hholds, heq⟩ := lowerCode_cases lowercaseRuns c.toNat
    · rw [heq, Char.ofNat_toNat] at h ⊢
      exact .inl ⟨h, rfl⟩
    · rw [h, heq]
      exact .inr (settled_of_holds hrun hholds)

/-- A character of a lower case text was there before and is small, or it is settled. -/
theorem mem_lowercase {text : List Char} {d : Char} (h : d ∈ lowercase text) :
    (d ∈ text ∧ IsSmall d) ∨ Settled d := by
  suffices ∀ before, d ∈ lowercaseAfter before text → (d ∈ text ∧ IsSmall d) ∨ Settled d from
    this [] h
  intro before hmem
  clear h
  induction text generalizing before with
  | nil => cases hmem
  | cons c rest ih =>
    rw [lowercaseAfter, List.mem_append] at hmem
    obtain hfirst | hrest := hmem
    · split_ifs at hfirst with hsigma hfinal
      · rw [List.mem_singleton.mp hfirst]
        exact .inr (by decide +kernel)
      · rw [List.mem_singleton.mp hfirst]
        exact .inr (by decide +kernel)
      · obtain ⟨rfl, hform⟩ | hsettled := settled_of_mem_lowerChar hfirst
        · exact .inl ⟨List.mem_cons_self, hsigma, hform⟩
        · exact .inr hsettled
    · exact (ih _ hrest).imp_left fun ⟨hin, hsmall⟩ => ⟨List.mem_cons_of_mem _ hin, hsmall⟩

theorem isSmall_of_mem_lowercase {text : List Char} {c : Char} (h : c ∈ lowercase text) :
    IsSmall c := by
  obtain ⟨_, hsmall⟩ | hsettled := mem_lowercase h
  · exact hsmall
  · exact hsettled.isSmall

/-- A reserved character of a lower case text was there before. -/
theorem mem_of_mem_lowercase {text : List Char} {c : Char} (hreserved : ¬ Settled c)
    (h : c ∈ lowercase text) : c ∈ text := by
  obtain ⟨hmem, _⟩ | hsettled := mem_lowercase h
  · exact hmem
  · exact absurd hsettled hreserved

theorem lowercase_eq_self {text : List Char} (h : ∀ c ∈ text, IsSmall c) :
    lowercase text = text := by
  suffices ∀ before, lowercaseAfter before text = text from this []
  intro before
  induction text generalizing before with
  | nil => rfl
  | cons c rest ih =>
    have hsmall := h c List.mem_cons_self
    rw [lowercaseAfter, if_neg hsmall.ne_sigma, hsmall.form,
      ih fun d hd => h d (List.mem_cons_of_mem _ hd)]
    rfl

@[simp] theorem lowercase_lowercase (text : List Char) :
    lowercase (lowercase text) = lowercase text :=
  lowercase_eq_self fun _ => isSmall_of_mem_lowercase

end Parley.Unicode
