import Parley.Proofs.Text.Keys

/-!
# Words in lower case

White space takes no part in case. What stands on its other side makes no difference to the form of
a letter, also where this depends on the letters around, and no form is white space. So a text can
be put into lower case word by word, and the words of a text in lower case are its words in lower
case.
-/
namespace Parley

namespace Unicode

/-- A character that takes no part in case: it has one form, it is not cased, and what looks through
characters for a cased one stops at it. -/
structure IsCaseless (c : Char) : Prop where
  small : IsSmall c
  not_ignorable : isCaseIgnorable c = false
  not_cased : isCased c = false

namespace IsCaseless
variable {c : Char} (h : IsCaseless c)
include h

theorem casedFirst_append (front rest : List Char) :
    casedFirst (front ++ c :: rest) = casedFirst front := by
  induction front with
  | nil => simp [casedFirst, h.not_ignorable, h.not_cased]
  | cons d front ih => rw [List.cons_append, casedFirst, casedFirst, ih]

/-- The forms of letters do not depend on what comes before a caseless character before them. -/
theorem lowercaseAfter_behind (before behind text : List Char) :
    lowercaseAfter (before ++ c :: behind) text = lowercaseAfter before text := by
  induction text generalizing before with
  | nil => rfl
  | cons d text ih =>
    have hrest := ih (d :: before)
    rw [List.cons_append] at hrest
    rw [lowercaseAfter, lowercaseAfter, hrest, h.casedFirst_append]

theorem lowercaseAfter_append (before left right : List Char) :
    lowercaseAfter before (left ++ c :: right) =
      lowercaseAfter before left ++ c :: lowercase right := by
  induction left generalizing before with
  | nil =>
    have hself : lowercaseAfter before (c :: right) = c :: lowercaseAfter (c :: before) right := by
      rw [lowercaseAfter, if_neg h.small.ne_sigma, h.small.form, List.singleton_append]
    have hright := h.lowercaseAfter_behind [] before right
    rw [List.nil_append] at hright
    rw [List.nil_append, hself, hright]
    rfl
  | cons d left ih =>
    rw [List.cons_append, lowercaseAfter, lowercaseAfter, ih, h.casedFirst_append,
      List.append_assoc]

/-- On its two sides a text is put into lower case on its own. -/
theorem lowercase_append (left right : List Char) :
    lowercase (left ++ c :: right) = lowercase left ++ c :: lowercase right :=
  h.lowercaseAfter_append [] left right

end IsCaseless

instance (c : Char) : Decidable (IsCaseless c) :=
  decidable_of_iff ((c ≠ 'Σ' ∧ lowerChar c = [c]) ∧ isCaseIgnorable c = false ∧ isCased c = false)
    ⟨fun h => ⟨⟨h.1.1, h.1.2⟩, h.2.1, h.2.2⟩,
      fun h => ⟨⟨h.small.ne_sigma, h.small.form⟩, h.not_ignorable, h.not_cased⟩⟩

/-- A test that no interval of one table meets an interval of another. -/
def tablesApart (table others : List (Nat × Nat)) : Bool :=
  table.all fun interval => others.all fun other =>
    other.2.blt interval.1 || interval.2.blt other.1

theorem within_eq_false_of_apart {table others : List (Nat × Nat)}
    (h : tablesApart table others = true) {code : Nat} (hcode : within table code = true) :
    within others code = false := by
  obtain ⟨interval, hinterval, hfirst, hlast⟩ := exists_of_within hcode
  cases hwithin : within others code with
  | false => rfl
  | true =>
    obtain ⟨other, hother, hfirst', hlast'⟩ := exists_of_within hwithin
    have happart := List.all_eq_true.mp (List.all_eq_true.mp h interval hinterval) other hother
    simp only [Bool.or_eq_true, Nat.blt_eq] at happart
    omega

/-- No interval of white space meets capitals. -/
theorem whiteSpace_apart_runs : (whiteSpaceTable.all fun interval =>
    lowercaseRuns.all fun run => run.last.blt interval.1 || interval.2.blt run.first) = true := by
  decide +kernel

theorem isCaseless_of_isWhiteSpace {c : Char} (hc : isWhiteSpace c = true) : IsCaseless c := by
  have hignorable : tablesApart whiteSpaceTable caseIgnorableTable = true := by decide +kernel
  have hcased : tablesApart whiteSpaceTable casedTable = true := by decide +kernel
  refine ⟨⟨?_, ?_⟩, within_eq_false_of_apart hignorable hc, within_eq_false_of_apart hcased hc⟩
  · rintro rfl
    exact absurd hc (by decide)
  · have hcode : lowerCode lowercaseRuns c.toNat = c.toNat := by
      refine lowerCode_eq_self fun run hrun hholds => ?_
      obtain ⟨interval, hinterval, hfirst, hlast⟩ := exists_of_within hc
      have hcapitals := List.all_eq_true.mp whiteSpace_apart_runs interval hinterval
      have happart := List.all_eq_true.mp hcapitals run hrun
      obtain ⟨hfirst', hlast', _⟩ := hholds
      simp only [Bool.or_eq_true, Nat.blt_eq] at happart
      omega
    have hdotted : c ≠ '\u0130' := by
      rintro rfl
      exact absurd hc (by decide)
    rw [lowerChar, if_neg hdotted, hcode, Char.ofNat_toNat]

/-- A lower case text begins with a reserved character only if it did so before. -/
theorem head?_eq_of_head?_lowercase {text : List Char} {c : Char} (hreserved : ¬ Settled c)
    (h : (lowercase text).head? = some c) : text.head? = some c := by
  cases text with
  | nil => cases h
  | cons d rest =>
    rw [lowercase, lowercaseAfter] at h
    split_ifs at h with hsigma hfinal
    · obtain rfl := Option.some.inj h
      exact absurd (by decide +kernel) hreserved
    · obtain rfl := Option.some.inj h
      exact absurd (by decide +kernel) hreserved
    · have hne : lowerChar d ≠ [] := by
        rw [lowerChar]
        split <;> simp
      rw [List.head?_append_of_ne_nil _ hne] at h
      obtain ⟨rfl, _⟩ | hsettled := settled_of_mem_lowerChar (List.mem_of_head? h)
      · rfl
      · exact absurd hsettled hreserved

end Unicode

namespace Text
open Unicode

theorem visible_lowercaseAfter {text : List Char} (h : ∀ c ∈ text, isWhiteSpace c = false)
    (before : List Char) : ∀ c ∈ lowercaseAfter before text, isWhiteSpace c = false := by
  induction text generalizing before with
  | nil => exact List.forall_mem_nil _
  | cons c rest ih =>
    obtain ⟨hc, hrest⟩ := List.forall_mem_cons.mp h
    obtain ⟨form, hform, heq⟩ := exists_lowercaseAfter_cons hc before rest
    rw [heq]
    exact List.forall_mem_append.mpr ⟨hform.visible, ih hrest (c :: before)⟩

theorem Solid.lowercase {word : List Char} (h : Solid word) : Solid (lowercase word) := by
  refine ⟨?_, visible_lowercaseAfter h.visible []⟩
  obtain ⟨c, rest, rfl⟩ := List.exists_cons_of_ne_nil h.ne_nil
  obtain ⟨form, hform, heq⟩ := exists_lowercaseAfter_cons (h.visible c List.mem_cons_self) [] rest
  rw [Unicode.lowercase, heq]
  exact List.append_ne_nil_of_left_ne_nil hform.ne_nil _

theorem lowercase_cons {c : Char} (hc : isWhiteSpace c = true) (rest : List Char) :
    lowercase (c :: rest) = c :: lowercase rest :=
  (isCaseless_of_isWhiteSpace hc).lowercase_append [] rest

theorem lowercase_append (word : List Char) {rest : List Char}
    (hrest : ∀ c ∈ rest.head?, isWhiteSpace c = true) :
    lowercase (word ++ rest) = lowercase word ++ lowercase rest := by
  cases rest with
  | nil => simp [lowercase, lowercaseAfter]
  | cons c rest =>
    have hc := hrest c rfl
    rw [(isCaseless_of_isWhiteSpace hc).lowercase_append, lowercase_cons hc]

theorem head?_lowercase {text : List Char} (h : ∀ c ∈ text.head?, isWhiteSpace c = true) :
    ∀ c ∈ (lowercase text).head?, isWhiteSpace c = true := by
  cases text with
  | nil => exact h
  | cons c rest => rwa [lowercase_cons (h c rfl)]

/-- The words of a text in lower case are its words in lower case. -/
theorem words_lowercase (text : List Char) :
    words (lowercase text) = (words text).map lowercase := by
  induction text using induction_on_words with
  | nil => rfl
  | blank c rest hc ih => rw [lowercase_cons hc, words_cons hc, words_cons hc, ih]
  | word word rest hword hrest ih =>
    rw [lowercase_append word hrest, hword.lowercase.words_append (head?_lowercase hrest),
      hword.words_append hrest, ih, List.map_cons]

end Text
end Parley
