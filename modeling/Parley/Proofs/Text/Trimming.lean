import Mathlib.Data.List.DropRight
import Parley.Proofs.Text.Words

/-!
# Trimming and cutting

A text has one core, which neither begins nor ends with white space and has nothing else around it.
Trimming finds it, whatever white space is added at either end. A text is cut at the first of the
marks in it, and not at all if there is none.
-/
namespace Parley.Text
open Parley.Unicode

/-- A text is its core with white space around it, where the core has none at its ends. -/
structure Trims (text core : List Char) : Prop where
  around : ∃ left right, text = left ++ core ++ right ∧ ∀ c ∈ left ++ right, isWhiteSpace c = true
  first : ∀ c ∈ core.head?, isWhiteSpace c = false
  last : ∀ c ∈ core.getLast?, isWhiteSpace c = false

theorem trimEnd_of_blank {blank : List Char} (h : ∀ c ∈ blank, isWhiteSpace c = true)
    (text : List Char) : trimEnd (text ++ blank) = trimEnd text := by
  rw [trimEnd, List.reverse_append,
    List.dropWhile_append_of_pos fun c hc => h c (List.mem_reverse.mp hc)]
  rfl

theorem trimEnd_append_cons {c : Char} (hc : isWhiteSpace c = false) (left rest : List Char) :
    trimEnd (left ++ c :: rest) = left ++ c :: trimEnd rest := by
  have hsplit : (left ++ c :: rest).reverse = rest.reverse ++ c :: left.reverse := by simp
  rw [trimEnd, hsplit, List.dropWhile_append, List.dropWhile_cons_of_neg (by simp [hc])]
  split
  · rename_i hblank
    rw [trimEnd, List.isEmpty_iff.mp hblank]
    simp
  · simp [trimEnd]

theorem trimEnd_of_last {text : List Char} (h : ∀ c ∈ text.getLast?, isWhiteSpace c = false) :
    trimEnd text = text := by
  cases hlast : text.getLast? with
  | none =>
    rw [List.getLast?_eq_none_iff.mp hlast]
    rfl
  | some c =>
    obtain ⟨rest, rfl⟩ := List.getLast?_eq_some_iff.mp hlast
    exact trimEnd_append_cons (h c hlast) rest []

/-- What trimming at the end takes away. -/
theorem exists_trimEnd_append (text : List Char) :
    ∃ blank, text = trimEnd text ++ blank ∧ ∀ c ∈ blank, isWhiteSpace c = true :=
  ⟨text.rtakeWhile isWhiteSpace, List.rdropWhile_append_rtakeWhile.symm,
    fun _ => List.mem_rtakeWhile_imp⟩

theorem trims_trim (text : List Char) : Trims text (trim text) where
  around := by
    obtain ⟨right, hright, hblank⟩ := exists_trimEnd_append (trimStart text)
    refine ⟨text.takeWhile isWhiteSpace, right, ?_, fun c hc => ?_⟩
    · rw [List.append_assoc, trim, ← hright]
      exact List.takeWhile_append_dropWhile.symm
    · exact (List.mem_append.mp hc).elim List.mem_takeWhile_imp (hblank c)
  first c hc := by
    obtain ⟨rest, hrest⟩ := List.head?_eq_some_iff.mp hc
    obtain ⟨right, hright, _⟩ := exists_trimEnd_append (trimStart text)
    have hnot := List.head?_dropWhile_not isWhiteSpace text
    rwa [← trimStart, hright, ← trim, hrest] at hnot
  last c hc := by
    obtain ⟨hne, rfl⟩ := List.mem_getLast?_eq_getLast hc
    exact eq_false_of_ne_true (List.rdropWhile_last_not isWhiteSpace (trimStart text) hne)

theorem Trims.trim_eq {text core : List Char} (h : Trims text core) : trim text = core := by
  obtain ⟨left, right, rfl, hblank⟩ := h.around
  rw [List.forall_mem_append] at hblank
  rw [trim, List.append_assoc, trimStart_of_blank hblank.1]
  cases core with
  | nil =>
    have hright := trimStart_of_blank hblank.2 []
    rw [List.append_nil] at hright
    rw [List.nil_append, hright]
    rfl
  | cons c rest =>
    rw [List.cons_append, trimStart_cons (h.first c rfl), ← List.cons_append,
      trimEnd_of_blank hblank.2, trimEnd_of_last h.last]

theorem trims_iff {text core : List Char} : Trims text core ↔ trim text = core :=
  ⟨Trims.trim_eq, fun h => h ▸ trims_trim text⟩

/-- More white space around a text leaves its core. -/
theorem Trims.append {text core : List Char} (h : Trims text core) {left right : List Char}
    (hblank : ∀ c ∈ left ++ right, isWhiteSpace c = true) :
    Trims (left ++ text ++ right) core where
  around := by
    obtain ⟨left', right', rfl, hblank'⟩ := h.around
    refine ⟨left ++ left', right' ++ right, by simp, fun c hc => ?_⟩
    simp only [List.mem_append] at hc hblank hblank'
    grind
  first := h.first
  last := h.last

theorem trim_append {left right : List Char} (hblank : ∀ c ∈ left ++ right, isWhiteSpace c = true)
    (text : List Char) : trim (left ++ text ++ right) = trim text :=
  ((trims_trim text).append hblank).trim_eq

theorem trim_append_blank {blank : List Char} (hblank : ∀ c ∈ blank, isWhiteSpace c = true)
    (text : List Char) : trim (text ++ blank) = trim text := @trim_append [] blank hblank text

theorem Trims.framed {text core : List Char} (h : Trims text core) (hne : core ≠ []) :
    Framed core := by
  constructor
  · obtain ⟨c, rest, rfl⟩ := List.exists_cons_of_ne_nil hne
    exact ⟨c, rest, rfl, h.first c rfl⟩
  · exact ⟨core.dropLast, core.getLast hne, (List.dropLast_concat_getLast hne).symm,
      h.last _ (List.getLast?_eq_some_getLast hne)⟩

/-- What trimming leaves alone begins and ends with characters other than white space. -/
theorem framed_of_trim_eq {text : List Char} (h : trim text = text) (hne : text ≠ []) :
    Framed text := (trims_iff.mpr h).framed hne

theorem trim_eq_nil_or_framed (text : List Char) : trim text = [] ∨ Framed (trim text) :=
  (em (trim text = [])).imp_right (trims_trim text).framed

theorem Framed.trimEnd_eq {text : List Char} (h : Framed text) : trimEnd text = text := by
  obtain ⟨rest, c, rfl, hc⟩ := h.last
  exact trimEnd_append_cons hc rest []

theorem trim_trimEnd (text : List Char) : trim (trimEnd text) = trim text := by
  obtain ⟨blank, htext, hblank⟩ := exists_trimEnd_append text
  conv_rhs => rw [htext]
  exact (trim_append_blank hblank (trimEnd text)).symm

/-- A text is cut at the first mark in it. -/
inductive Cut (mark text : List Char) : List Char → Prop
  | whole (h : ¬ mark <:+: text) : Cut mark text text
  | first {shown hidden : List Char} (htext : text = shown ++ mark ++ hidden)
    (hfirst : ∀ front back, text = front ++ mark ++ back → shown.length ≤ front.length) :
    Cut mark text shown

section
variable {mark text shown other : List Char}

theorem cut_before (hmark : mark ≠ []) (text : List Char) : Cut mark text (before mark text) := by
  induction text with
  | nil => exact .whole fun h => hmark (List.infix_nil.mp h)
  | cons c rest ih =>
    rw [before]
    split
    · rename_i hstarts
      obtain ⟨hidden, htext⟩ := List.isPrefixOf_iff_prefix.mp hstarts
      have hfirst : ∀ front back, c :: rest = front ++ mark ++ back →
          ([] : List Char).length ≤ front.length := fun _ _ _ => Nat.zero_le _
      exact .first htext.symm hfirst
    · rename_i hstarts
      rw [List.isPrefixOf_iff_prefix] at hstarts
      generalize before mark rest = shown at ih
      cases ih with
      | whole h => exact .whole fun hinfix => (List.infix_cons_iff.mp hinfix).elim hstarts h
      | first htext hfirst =>
        refine .first (by rw [htext]; rfl) fun front back hfront => ?_
        cases front with
        | nil => exact absurd ⟨back, hfront.symm⟩ hstarts
        | cons d front =>
          obtain ⟨_, hrest⟩ := List.cons.inj hfront
          exact Nat.succ_le_succ (hfirst front back hrest)

theorem Cut.unique (h : Cut mark text shown) (h' : Cut mark text other) : shown = other := by
  cases h with
  | whole h =>
    cases h' with
    | whole _ => rfl
    | first htext _ => exact absurd ⟨_, _, htext.symm⟩ h
  | first htext hfirst =>
    cases h' with
    | whole h' => exact absurd ⟨_, _, htext.symm⟩ h'
    | first htext' hfirst' =>
      have hlength := Nat.le_antisymm (hfirst _ _ htext') (hfirst' _ _ htext)
      have hparts := htext.symm.trans htext'
      rw [List.append_assoc, List.append_assoc] at hparts
      exact (List.append_inj hparts hlength).1

theorem cut_iff (hmark : mark ≠ []) : Cut mark text shown ↔ before mark text = shown :=
  ⟨(cut_before hmark text).unique, fun h => h ▸ cut_before hmark text⟩

theorem occurs_iff : occurs mark text = true ↔ mark <:+: text := by
  induction text with
  | nil => rw [occurs, List.isEmpty_iff, List.infix_nil]
  | cons c rest ih =>
    rw [occurs, Bool.or_eq_true, ih, List.isPrefixOf_iff_prefix, List.infix_cons_iff]

end
end Parley.Text
