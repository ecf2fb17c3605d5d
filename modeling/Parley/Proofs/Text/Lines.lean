import Parley.Proofs.Text.Words

/-!
# Lines

After a text that is empty or ends with a line feed, the lines of another text are the lines that
follow. So texts without line feeds are the lines of what is written with a line feed after each of
them, and also, if the last one is not empty, of what is written with a line feed between them.
-/
namespace Parley.Text
open Parley.Unicode

/-- A text in which no line has begun: the next character is the first of a line. -/
def EndsLine (text : List Char) : Prop := text = [] ∨ ∃ front, text = front ++ ['\n']

instance (text : List Char) : Decidable (EndsLine text) :=
  decidable_of_iff (text = [] ∨ text.getLast? = some '\n')
    (or_congr_right List.getLast?_eq_some_iff)

theorem dropLastEmpty_append (front : List (List Char)) {back : List (List Char)}
    (h : back ≠ []) : dropLastEmpty (front ++ back) = front ++ dropLastEmpty back := by
  induction front with
  | nil => rfl
  | cons piece front ih =>
    obtain ⟨next, others, hnext⟩ :=
      List.exists_cons_of_ne_nil (List.append_ne_nil_of_right_ne_nil front h)
    rw [hnext] at ih
    rw [List.cons_append, hnext, dropLastEmpty, ih]
    · rfl
    · simp

theorem pieces_feed (front back : List Char) : pieces (· == '\n') (front ++ '\n' :: back) =
    pieces (· == '\n') front ++ pieces (· == '\n') back :=
  pieces_append_cons _ front back '\n' (by decide)

theorem pieces_of_not_mem {line : List Char} (h : '\n' ∉ line) :
    pieces (· == '\n') line = [line] := by
  rw [pieces_eq_splitOnP]
  refine List.splitOnP_eq_singleton fun c hc => ?_
  simpa using ne_of_mem_of_not_mem hc h

theorem lines_append {front : List Char} (h : EndsLine front) (back : List Char) :
    lines (front ++ back) = lines front ++ lines back := by
  obtain rfl | ⟨front, rfl⟩ := h
  · rfl
  · have hpieces (rest : List Char) : lines (front ++ '\n' :: rest) =
        pieces (· == '\n') front ++ lines rest := by
      rw [lines, pieces_feed, dropLastEmpty_append _ (pieces_ne_nil _ _), ← lines]
    rw [List.append_assoc, List.singleton_append, hpieces, hpieces]
    simp [lines, pieces, dropLastEmpty]

/-- A text without a line feed is one line, unless it is empty. -/
theorem lines_of_not_mem {line : List Char} (h : '\n' ∉ line) (hne : line ≠ []) :
    lines line = [line] := by
  simp [lines, pieces_of_not_mem h, dropLastEmpty, hne]

theorem lines_cons_of_not_mem {line : List Char} (h : '\n' ∉ line) (rest : List Char) :
    lines (line ++ '\n' :: rest) = line :: lines rest := by
  rw [lines, pieces_feed, pieces_of_not_mem h, dropLastEmpty_append _ (pieces_ne_nil _ _)]
  rfl

/-- Lines with a line feed after each. -/
theorem lines_flatMap {texts : List (List Char)} (h : ∀ line ∈ texts, '\n' ∉ line) :
    lines (texts.flatMap (· ++ ['\n'])) = texts := by
  induction texts with
  | nil => rfl
  | cons line rest ih =>
    rw [List.flatMap_cons, List.append_assoc, List.singleton_append,
      lines_cons_of_not_mem (h line List.mem_cons_self),
      ih fun other hother => h other (List.mem_cons_of_mem _ hother)]

/-- Lines with a line feed between them. -/
theorem lines_intercalate {texts : List (List Char)}
    (h : ∀ line ∈ texts, '\n' ∉ line ∧ line ≠ []) : lines (['\n'].intercalate texts) = texts := by
  induction texts with
  | nil => rfl
  | cons line rest ih =>
    obtain ⟨hfeed, hne⟩ := h line List.mem_cons_self
    have hrest := ih fun other hother => h other (List.mem_cons_of_mem _ hother)
    cases rest with
    | nil => rw [List.intercalate_singleton, lines_of_not_mem hfeed hne]
    | cons next rest =>
      rw [List.intercalate_cons_cons, List.append_assoc, List.singleton_append,
        lines_cons_of_not_mem hfeed, hrest]

/-- A text that is not cut anywhere. -/
theorem before_eq_self {mark text : List Char} (h : occurs mark text = false) :
    before mark text = text := by
  induction text with
  | nil => rfl
  | cons c rest ih =>
    rw [occurs, Bool.or_eq_false_iff] at h
    rw [before, if_neg (by simp [h.1]), ih h.2]

end Parley.Text
