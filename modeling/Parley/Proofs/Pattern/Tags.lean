import Mathlib.Data.List.Forall2
import Parley.Pattern.Tag
import Parley.Proofs.Text.Words

/-!
# The grammar of tags

A text has tags when its braces enclose pieces without braces, one after another. A tag declares a
weight by the word, an equals sign and a numeral, with white space around the sign if one likes. The
reader of tags takes apart exactly the texts whose tags all declare a weight.
-/
namespace Parley

theorem bind_eq_ok_iff {ε α β : Type} {x : Except ε α} {f : α → Except ε β} {b : β} :
    x >>= f = .ok b ↔ ∃ a, x = .ok a ∧ f a = .ok b := by
  cases x with
  | ok a => simp [bind, Except.bind]
  | error e => simp [bind, Except.bind]

theorem exists_forall₂_iff {α β : Type} {R : α → β → Prop} {xs : List α} :
    (∃ ys, List.Forall₂ R xs ys) ↔ ∀ x ∈ xs, ∃ y, R x y := by
  induction xs with
  | nil => simp
  | cons x xs ih =>
    simp only [List.forall₂_cons_left_iff, List.forall_mem_cons, ← ih]
    constructor
    · rintro ⟨_, y, ys, hy, hys, rfl⟩
      exact ⟨⟨y, hy⟩, ys, hys⟩
    · rintro ⟨⟨y, hy⟩, ys, hys⟩
      exact ⟨_, y, ys, hy, hys, rfl⟩

theorem forall_of_forall₂ {α β : Type} {R : α → β → Prop} {P : β → Prop} {xs : List α}
    {ys : List β} (h : List.Forall₂ R xs ys) (hP : ∀ x ∈ xs, ∀ y, R x y → P y) :
    ∀ y ∈ ys, P y := by
  induction h with
  | nil => simp
  | cons hxy _ ih =>
    obtain ⟨hfirst, hrest⟩ := List.forall_mem_cons.mp hP
    exact List.forall_mem_cons.mpr ⟨hfirst _ hxy, ih hrest⟩

namespace Tag
open Parley.Unicode Parley.Text

/-- The tags of a text are apart from its body, which keeps a space in the place of each. -/
inductive Parts : (text body : List Char) → (tags : List (List Char)) → Prop
  | nil : Parts [] [] []
  | char {c : Char} {text body : List Char} {tags : List (List Char)} :
    c ≠ '\x7b' → c ≠ '\x7d' → Parts text body tags → Parts (c :: text) (c :: body) tags
  | tag {tag text body : List Char} {tags : List (List Char)} :
    '\x7b' ∉ tag → '\x7d' ∉ tag → Parts text body tags →
      Parts ('\x7b' :: (tag ++ '\x7d' :: text)) (' ' :: body) (tag :: tags)

theorem Parts.not_mem_body {text body : List Char} {tags : List (List Char)}
    (h : Parts text body tags) : '\x7b' ∉ body ∧ '\x7d' ∉ body := by
  induction h with
  | nil => simp
  | char hopen hclose _ ih => simp [ih, Ne.symm hopen, Ne.symm hclose]
  | tag _ _ _ ih => simp [ih]

/-- A text without braces is all body. -/
theorem parts_self {text : List Char} (hopen : '\x7b' ∉ text) (hclose : '\x7d' ∉ text) :
    Parts text text [] := by
  induction text with
  | nil => exact .nil
  | cons c rest ih =>
    rw [List.mem_cons, not_or] at hopen hclose
    exact .char (Ne.symm hopen.1) (Ne.symm hclose.1) (ih hopen.2 hclose.2)

/-- The text that brought the reader where it stands. -/
def entered : Option (List Char) → List Char
  | none => []
  | some tag => '\x7b' :: tag.reverse

theorem parts_of_part (state : Option (List Char)) {text body : List Char}
    {tags : List (List Char)}
    (hstate : ∀ tag, state = some tag → '\x7b' ∉ tag ∧ '\x7d' ∉ tag)
    (h : part state text = ⟨body, tags, true⟩) : Parts (entered state ++ text) body tags := by
  induction text generalizing state body tags with
  | nil =>
    cases state with
    | none =>
      obtain ⟨rfl, rfl, _⟩ := Parted.mk.inj h
      exact .nil
    | some tag => cases (Parted.mk.inj h).2.2
  | cons c rest ih =>
    cases state with
    | none =>
      rw [part] at h
      split_ifs at h with hopen hclose
      · rw [hopen]
        exact ih (some []) (by simp) h
      · cases (Parted.mk.inj h).2.2
      · obtain ⟨rfl, rfl, hbalanced⟩ := Parted.mk.inj h
        refine .char hopen hclose (ih none (by simp) ?_)
        rw [← hbalanced]
    | some tag =>
      obtain ⟨hnoOpen, hnoClose⟩ := hstate tag rfl
      rw [part] at h
      split_ifs at h with hopen hclose
      · cases (Parted.mk.inj h).2.2
      · obtain ⟨rfl, rfl, hbalanced⟩ := Parted.mk.inj h
        have hrest := ih none (by simp) (by rw [← hbalanced])
        have htag := Parts.tag (List.mem_reverse.not.mpr hnoOpen)
          (List.mem_reverse.not.mpr hnoClose)
          hrest
        simpa [entered, hclose] using htag
      · have hrest := ih (some (c :: tag))
          (by simp [hnoOpen, hnoClose, Ne.symm hopen, Ne.symm hclose]) h
        simpa [entered] using hrest

theorem part_append {tag rest : List Char} (hopen : '\x7b' ∉ tag) (hclose : '\x7d' ∉ tag)
    (read : List Char) :
    part (some read) (tag ++ rest) = part (some (tag.reverse ++ read)) rest := by
  induction tag generalizing read with
  | nil => rfl
  | cons c tag ih =>
    rw [List.mem_cons, not_or] at hopen hclose
    rw [List.cons_append, part, if_neg (Ne.symm hopen.1), if_neg (Ne.symm hclose.1),
      ih hopen.2 hclose.2]
    simp

theorem part_of_parts {text body : List Char} {tags : List (List Char)}
    (h : Parts text body tags) : part none text = ⟨body, tags, true⟩ := by
  induction h with
  | nil => rfl
  | char hopen hclose _ ih => rw [part, if_neg hopen, if_neg hclose, ih, Parted.consBody]
  | tag hopen hclose _ ih =>
    rw [part, if_pos rfl, part_append hopen hclose, part, if_neg (by decide), if_pos rfl, ih]
    simp [Parted.consTag]

theorem part_eq_iff {text body : List Char} {tags : List (List Char)} :
    part none text = ⟨body, tags, true⟩ ↔ Parts text body tags :=
  ⟨parts_of_part none (by simp), part_of_parts⟩

/-- Decimal digits, with a plus sign before them if one likes, that write a number of 32 bits. -/
def Numeral (value : List Char) (n : Nat) : Prop :=
  ∃ sign digits, value = sign ++ digits ∧ (sign = [] ∨ sign = ['+']) ∧ digits ≠ [] ∧
    (∀ c ∈ digits, Decimal.isDigit c = true) ∧ n = Decimal.value digits ∧ n < UInt32.size

/-- In lower case and without white space at its ends, a tag gives a value to the word weight. -/
def Declares (tag : List Char) (n : Nat) : Prop :=
  ∃ before after value, lowercase (trim tag) =
      "weight".toList ++ (before ++ '=' :: (after ++ value)) ∧
    (∀ c ∈ before, isWhiteSpace c = true) ∧ (∀ c ∈ after, isWhiteSpace c = true) ∧
    Numeral value n

theorem isWhiteSpace_of_isDigit {c : Char} (h : Decimal.isDigit c = true) :
    isWhiteSpace c = false := by
  simp only [Decimal.isDigit, Bool.and_eq_true, decide_eq_true_eq] at h
  exact isWhiteSpace_eq_false (Nat.lt_of_lt_of_le (by decide) h.1)
    (Nat.lt_of_le_of_lt h.2 (by decide))

theorem Numeral.solid {value : List Char} {n : Nat} (h : Numeral value n) : Solid value := by
  obtain ⟨sign, digits, rfl, hsign, hne, hdigits, _⟩ := h
  refine ⟨by simp [hne], fun c hc => ?_⟩
  obtain hc | hc := List.mem_append.mp hc
  · obtain rfl | rfl := hsign
    · cases hc
    · rw [List.mem_singleton.mp hc]
      decide
  · exact isWhiteSpace_of_isDigit (hdigits c hc)

/-- The digits of a text are what follows a plus sign, or all of it. -/
theorem exists_sign (value : List Char) :
    ∃ sign, (sign = [] ∨ sign = ['+']) ∧
      value = sign ++ if value.head? = some '+' then value.tail else value := by
  by_cases h : value.head? = some '+'
  · obtain ⟨rest, rfl⟩ := List.head?_eq_some_iff.mp h
    exact ⟨['+'], .inr rfl, by simp⟩
  · exact ⟨[], .inl rfl, by simp [h]⟩

theorem readWeight?_eq_some_iff {value : List Char} {n : Nat} :
    readWeight? value = some n ↔ Numeral value n := by
  constructor
  · intro h
    obtain ⟨sign, hsign, hvalue⟩ := exists_sign value
    rw [readWeight?] at h
    generalize (if value.head? = some '+' then value.tail else value) = digits at h hvalue
    simp only at h
    split_ifs at h with hbad hle
    obtain ⟨hne, hdigits⟩ : digits ≠ [] ∧ ∀ c ∈ digits, Decimal.isDigit c = true := by
      simpa using hbad
    refine ⟨sign, digits, hvalue, hsign, hne, hdigits, (Option.some.inj h).symm, ?_⟩
    rw [← Option.some.inj h]
    exact Nat.lt_of_le_of_lt hle (by decide)
  · rintro ⟨sign, digits, rfl, hsign, hne, hdigits, rfl, hlt⟩
    have hle : Decimal.value digits ≤ maxWeight := Nat.le_of_lt_succ hlt
    have hrest : (if (sign ++ digits).head? = some '+' then (sign ++ digits).tail
        else sign ++ digits) = digits := by
      obtain rfl | rfl := hsign
      · rw [List.nil_append, if_neg]
        intro hplus
        obtain ⟨rest, rfl⟩ := List.head?_eq_some_iff.mp hplus
        exact absurd (hdigits '+' List.mem_cons_self) (by decide)
      · rfl
    simp only [readWeight?, hrest]
    simp [hne, hle, List.all_eq_true.mpr hdigits]

theorem weightText?_eq_some_iff {tag value : List Char} :
    weightText? tag = some value ↔ Solid value ∧ ∃ before after,
      tag = "weight".toList ++ (before ++ '=' :: (after ++ value)) ∧
        (∀ c ∈ before, isWhiteSpace c = true) ∧ ∀ c ∈ after, isWhiteSpace c = true := by
  constructor
  · intro h
    rw [weightText?] at h
    split_ifs at h with hprefix
    obtain ⟨gap, rfl⟩ := List.isPrefixOf_iff_prefix.mp hprefix
    have hgap : ("weight".toList ++ gap).drop 6 = gap := rfl
    rw [hgap] at h
    split at h
    · rename_i rest hrest
      dsimp only at h
      split_ifs at h with hbad
      obtain ⟨hne, hvisible⟩ : trimStart rest ≠ [] ∧
          ∀ c ∈ trimStart rest, isWhiteSpace c = false := by simpa using hbad
      rw [← Option.some.inj h]
      refine ⟨⟨hne, hvisible⟩, gap.takeWhile isWhiteSpace, rest.takeWhile isWhiteSpace, ?_,
        List.all_eq_true.mp List.all_takeWhile, List.all_eq_true.mp List.all_takeWhile⟩
      rw [trimStart, List.takeWhile_append_dropWhile, ← hrest, trimStart,
        List.takeWhile_append_dropWhile]
    · cases h
  · rintro ⟨hsolid, before, after, rfl, hbefore, hafter⟩
    obtain ⟨c, rest, rfl⟩ := List.exists_cons_of_ne_nil hsolid.ne_nil
    have hprefix : "weight".toList.isPrefixOf
        ("weight".toList ++ (before ++ '=' :: (after ++ c :: rest))) = true :=
      List.isPrefixOf_iff_prefix.mpr (List.prefix_append _ _)
    have hdrop : ("weight".toList ++ (before ++ '=' :: (after ++ c :: rest))).drop 6 =
        before ++ '=' :: (after ++ c :: rest) := rfl
    rw [weightText?, if_pos hprefix, hdrop, trimStart_of_blank hbefore,
      trimStart_cons (by decide)]
    simp only [trimStart_of_blank hafter, trimStart_cons (hsolid.visible c List.mem_cons_self)]
    rw [if_neg]
    simpa using hsolid.visible

theorem weight_eq_ok_iff {tag : List Char} {n : Nat} : weight tag = .ok n ↔ Declares tag n := by
  rw [weight]
  constructor
  · intro h
    cases htext : weightText? (lowercase (trim tag)) with
    | none => simp [htext] at h
    | some value =>
      cases hread : readWeight? value with
      | none => simp [htext, hread] at h
      | some weight =>
        obtain rfl : weight = n := by simpa [htext, hread] using h
        obtain ⟨_, before, after, htag, hbefore, hafter⟩ := weightText?_eq_some_iff.mp htext
        exact ⟨before, after, value, htag, hbefore, hafter, readWeight?_eq_some_iff.mp hread⟩
  · rintro ⟨before, after, value, htag, hbefore, hafter, hnumeral⟩
    have htext := weightText?_eq_some_iff.mpr
      ⟨hnumeral.solid, before, after, htag, hbefore, hafter⟩
    simp [htext, readWeight?_eq_some_iff.mpr hnumeral]

theorem lastWeight_eq_ok_iff {start n : Nat} {tags : List (List Char)} :
    lastWeight start tags = .ok n ↔
      ∃ weights, List.Forall₂ Declares tags weights ∧ n = weights.getLast?.getD start := by
  induction tags generalizing start with
  | nil => simp [lastWeight, eq_comm]
  | cons tag rest ih =>
    simp only [lastWeight, bind_eq_ok_iff, weight_eq_ok_iff, ih, List.forall₂_cons_left_iff]
    constructor
    · rintro ⟨first, hfirst, weights, hrest, rfl⟩
      exact ⟨first :: weights, ⟨first, weights, hfirst, hrest, rfl⟩, by simp [List.getLast?_cons]⟩
    · rintro ⟨_, ⟨first, weights, hfirst, hrest, rfl⟩, rfl⟩
      exact ⟨first, hfirst, weights, hrest, by simp [List.getLast?_cons]⟩

/-- Tags are taken out of a text exactly when they are apart and declare weights, of which the last
one counts. -/
theorem strip_eq_ok_iff {text body : List Char} {n : Nat} :
    strip text = .ok (body, n) ↔ ∃ tags weights, Parts text body tags ∧
      List.Forall₂ Declares tags weights ∧ n = weights.getLast?.getD 0 := by
  simp only [strip, bind_eq_ok_iff, lastWeight_eq_ok_iff]
  constructor
  · rintro ⟨_, ⟨weights, hweights, rfl⟩, h⟩
    split_ifs at h with hbalanced
    obtain ⟨rfl, rfl⟩ := Prod.mk.inj (Except.ok.inj h)
    refine ⟨_, weights, part_eq_iff.mp ?_, hweights, rfl⟩
    rw [← hbalanced]
  · rintro ⟨tags, weights, hparts, hweights, rfl⟩
    rw [part_eq_iff.mpr hparts]
    exact ⟨_, ⟨weights, hweights, rfl⟩, rfl⟩

end Tag
end Parley
