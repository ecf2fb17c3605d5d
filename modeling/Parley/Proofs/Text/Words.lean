import Mathlib.Data.List.TakeWhile
import Parley.Text.Words

/-!
# Pieces and words

Pieces are what a split at separators leaves, and words those pieces between white space that are
not empty. A word is solid, which means that no white space is in it, and solid texts with a space
between them have themselves as words. Trimming keeps a text that begins and ends with solid
characters, such as solid texts with anything between them.
-/
namespace Parley.Text
open Parley.Unicode

/-- White space is found up to the space and from the next-line control on. -/
theorem toNat_of_isWhiteSpace {c : Char} (h : isWhiteSpace c = true) :
    c.toNat ≤ 0x20 ∨ 0x85 ≤ c.toNat := by
  have htable : ∀ interval ∈ whiteSpaceTable, interval.2 ≤ 0x20 ∨ 0x85 ≤ interval.1 := by decide
  obtain ⟨interval, hmem, hfirst, hlast⟩ := exists_of_within h
  exact (htable interval hmem).imp (Nat.le_trans hlast) (Nat.le_trans · hfirst)

theorem isWhiteSpace_eq_false {c : Char} (hlow : 0x20 < c.toNat) (hhigh : c.toNat < 0x85) :
    isWhiteSpace c = false := by
  cases hc : isWhiteSpace c with
  | false => rfl
  | true =>
    have hbounds := toNat_of_isWhiteSpace hc
    omega

/-- A text without white space that is not empty. -/
structure Solid (word : List Char) : Prop where
  ne_nil : word ≠ []
  visible : ∀ c ∈ word, isWhiteSpace c = false

instance (word : List Char) : Decidable (Solid word) :=
  decidable_of_iff (word ≠ [] ∧ word.all (!isWhiteSpace ·) = true)
    ⟨fun h => ⟨h.1, by simpa using h.2⟩, fun h => ⟨h.ne_nil, by simpa using h.visible⟩⟩

theorem pieces_eq_splitOnP (separates : Char → Bool) (text : List Char) :
    pieces separates text = text.splitOnP separates := by
  induction text with
  | nil => rw [pieces, List.splitOnP_nil]
  | cons c rest ih =>
    rw [pieces, List.splitOnP_cons_eq_if_modifyHead, ih]
    split
    · rfl
    · cases h : rest.splitOnP separates with
      | nil => exact absurd h (List.splitOnP_ne_nil separates rest)
      | cons piece others => rfl

theorem pieces_congr {separates separates' : Char → Bool} {text : List Char}
    (h : ∀ c ∈ text, separates c = separates' c) :
    pieces separates text = pieces separates' text := by
  induction text with
  | nil => rfl
  | cons c rest ih =>
    obtain ⟨hc, hrest⟩ := List.forall_mem_cons.mp h
    rw [pieces, pieces, hc, ih hrest]

theorem pieces_eq_splitOn (mark : Char) (text : List Char) :
    pieces (· == mark) text = text.splitOn mark := by
  rw [pieces_eq_splitOnP, List.splitOn]

/-- A character that separates nothing begins the first piece. -/
theorem exists_pieces_cons (separates : Char → Bool) (rest : List Char) {c : Char}
    (hc : separates c = false) :
    ∃ piece others, pieces separates (c :: rest) = (c :: piece) :: others := by
  cases h : pieces separates rest with
  | nil => exact absurd h (pieces_ne_nil separates rest)
  | cons piece others => exact ⟨piece, others, by simp [pieces, hc, h]⟩

/-- A piece is a part of the text without separators. -/
theorem of_mem_pieces {separates : Char → Bool} {text piece : List Char}
    (h : piece ∈ pieces separates text) :
    (∀ c ∈ piece, separates c = false) ∧ piece ⊆ text := by
  induction text generalizing piece with
  | nil =>
    obtain rfl : piece = [] := by simpa [pieces] using h
    simp
  | cons c rest ih =>
    rw [pieces] at h
    split at h
    · obtain rfl | h := List.mem_cons.mp h
      · simp
      · exact ⟨(ih h).1, List.subset_cons_of_subset c (ih h).2⟩
    · rename_i hc
      cases hp : pieces separates rest with
      | nil => exact absurd hp (pieces_ne_nil separates rest)
      | cons first others =>
        rw [hp] at ih h
        obtain rfl | h := List.mem_cons.mp h
        · obtain ⟨hfirst, hsubset⟩ := ih List.mem_cons_self
          refine ⟨?_, List.cons_subset_cons c hsubset⟩
          rintro d (_ | ⟨_, hd⟩)
          · simpa using hc
          · exact hfirst d hd
        · have hrest := ih (List.mem_cons_of_mem _ h)
          exact ⟨hrest.1, List.subset_cons_of_subset c hrest.2⟩

/-- A character of texts with something between them. -/
theorem mem_intercalate {between : List Char} {texts : List (List Char)} {c : Char}
    (h : c ∈ between.intercalate texts) : c ∈ between ∨ ∃ text ∈ texts, c ∈ text := by
  induction texts with
  | nil => cases h
  | cons text rest ih =>
    cases rest with
    | nil => exact .inr ⟨text, List.mem_cons_self, by rwa [List.intercalate_singleton] at h⟩
    | cons next rest =>
      rw [List.intercalate_cons_cons, List.mem_append, List.mem_append] at h
      obtain (h | h) | h := h
      · exact .inr ⟨text, List.mem_cons_self, h⟩
      · exact .inl h
      · exact (ih h).imp_right fun ⟨t, ht, hc⟩ => ⟨t, List.mem_cons_of_mem _ ht, hc⟩

theorem of_mem_words {text word : List Char} (h : word ∈ words text) :
    Solid word ∧ word ⊆ text := by
  obtain ⟨hpiece, hne⟩ := List.mem_filter.mp h
  obtain ⟨hvisible, hsubset⟩ := of_mem_pieces hpiece
  exact ⟨⟨by simpa using hne, hvisible⟩, hsubset⟩

theorem words_append_cons {c : Char} (hc : isWhiteSpace c = true) (left right : List Char) :
    words (left ++ c :: right) = words left ++ words right := by
  rw [words, pieces_append_cons _ _ _ _ hc, List.filter_append]
  rfl

theorem Solid.words_eq {word : List Char} (h : Solid word) : words word = [word] := by
  rw [words, pieces_eq_splitOnP, List.splitOnP_eq_singleton h.visible]
  simp [h.ne_nil]

theorem words_cons {c : Char} (hc : isWhiteSpace c = true) (rest : List Char) :
    words (c :: rest) = words rest :=
  words_append_cons hc [] rest

theorem Solid.words_append {word rest : List Char} (h : Solid word)
    (hrest : ∀ c ∈ rest.head?, isWhiteSpace c = true) :
    words (word ++ rest) = word :: words rest := by
  cases rest with
  | nil =>
    rw [List.append_nil, h.words_eq]
    rfl
  | cons c rest =>
    have hc := hrest c rfl
    rw [words_append_cons hc, words_cons hc, h.words_eq, List.singleton_append]

/-- A text that begins with another character than white space begins with a word, which is all of
it or has white space behind it. -/
theorem exists_solid_append {c : Char} (hc : isWhiteSpace c = false) (text : List Char) :
    ∃ word rest, c :: text = word ++ rest ∧ Solid word ∧
      ∀ d ∈ rest.head?, isWhiteSpace d = true := by
  let visible := fun c : Char => !isWhiteSpace c
  have hword : (c :: text).takeWhile visible = c :: text.takeWhile visible := by
    simp [visible, hc]
  refine ⟨_, _, (List.takeWhile_append_dropWhile (p := visible)).symm, ⟨by simp [hword], ?_⟩, ?_⟩
  · intro d hd
    simpa [visible] using List.mem_takeWhile_imp hd
  · intro d hd
    have hhead := List.head?_dropWhile_not visible (c :: text)
    rw [Option.mem_def.mp hd] at hhead
    simpa [visible] using hhead

/-- A text is empty, or it begins with white space or with a word that is all of it or has white
space behind it. -/
theorem induction_on_words {motive : List Char → Prop} (nil : motive [])
    (blank : ∀ c rest, isWhiteSpace c = true → motive rest → motive (c :: rest))
    (word : ∀ word rest, Solid word → (∀ c ∈ rest.head?, isWhiteSpace c = true) → motive rest →
      motive (word ++ rest)) (text : List Char) : motive text := by
  induction hlength : text.length using Nat.strongRecOn generalizing text with
  | ind n ih =>
    cases text with
    | nil => exact nil
    | cons c rest =>
      cases hc : isWhiteSpace c with
      | true => exact blank c rest hc (ih rest.length (by simp [← hlength]) rest rfl)
      | false =>
        obtain ⟨first, behind, hsplit, hsolid, hbehind⟩ := exists_solid_append hc rest
        have hshorter : behind.length < n := by
          rw [← hlength, hsplit, List.length_append]
          exact Nat.lt_add_of_pos_left (List.length_pos_iff.mpr hsolid.ne_nil)
        rw [hsplit]
        exact word first behind hsolid hbehind (ih _ hshorter _ rfl)

/-- Words with a space between them are read as what they are. -/
theorem words_intercalate {solids : List (List Char)} (h : ∀ word ∈ solids, Solid word) :
    words ([' '].intercalate solids) = solids := by
  induction solids with
  | nil => rfl
  | cons word rest ih =>
    have hword := h word List.mem_cons_self
    have hrest := ih fun w hw => h w (List.mem_cons_of_mem _ hw)
    cases rest with
    | nil => rw [List.intercalate_singleton, hword.words_eq]
    | cons next rest =>
      rw [List.intercalate_cons_cons, List.append_assoc, List.singleton_append,
        words_append_cons (by decide), hword.words_eq, hrest]
      rfl

theorem trimStart_of_blank {blank : List Char} (h : ∀ c ∈ blank, isWhiteSpace c = true)
    (rest : List Char) : trimStart (blank ++ rest) = trimStart rest := by
  rw [trimStart, List.dropWhile_append_of_pos h]
  rfl

theorem trimStart_cons {c : Char} (hc : isWhiteSpace c = false) (rest : List Char) :
    trimStart (c :: rest) = c :: rest := by
  rw [trimStart, List.dropWhile_cons_of_neg (by simp [hc])]

theorem trim_subset (text : List Char) : trim text ⊆ text := by
  intro c hc
  have hstart : c ∈ trimStart text := by
    rw [trim, trimEnd, List.mem_reverse] at hc
    exact List.mem_reverse.mp ((List.dropWhile_sublist _).subset hc)
  exact (List.dropWhile_sublist _).subset hstart

/-- A text that begins and ends with characters other than white space. -/
structure Framed (text : List Char) : Prop where
  first : ∃ c rest, text = c :: rest ∧ isWhiteSpace c = false
  last : ∃ rest c, text = rest ++ [c] ∧ isWhiteSpace c = false

theorem Framed.trim_eq {text : List Char} (h : Framed text) : trim text = text := by
  obtain ⟨c, rest, hfirst, hc⟩ := h.first
  obtain ⟨rest', c', hlast, hc'⟩ := h.last
  have hstart : trimStart text = text := by rw [hfirst, trimStart_cons hc]
  rw [trim, hstart, trimEnd, hlast, List.reverse_append, List.reverse_singleton,
    List.singleton_append, List.dropWhile_cons_of_neg (by simp [hc']), List.reverse_cons,
    List.reverse_reverse]

theorem Solid.framed {word : List Char} (h : Solid word) : Framed word := by
  constructor
  · obtain ⟨c, rest, rfl⟩ := List.exists_cons_of_ne_nil h.ne_nil
    exact ⟨c, rest, rfl, h.visible c List.mem_cons_self⟩
  · refine ⟨word.dropLast, word.getLast h.ne_nil, (List.dropLast_concat_getLast h.ne_nil).symm, ?_⟩
    exact h.visible _ (List.getLast_mem h.ne_nil)

theorem Framed.append {left right : List Char} (hleft : Framed left) (between : List Char)
    (hright : Framed right) : Framed (left ++ between ++ right) := by
  obtain ⟨c, rest, rfl, hc⟩ := hleft.first
  obtain ⟨rest', c', rfl, hc'⟩ := hright.last
  exact ⟨⟨c, _, rfl, hc⟩, ⟨_, c', (List.append_assoc _ _ _).symm, hc'⟩⟩

theorem framed_intercalate {between : List Char} {texts : List (List Char)} (hne : texts ≠ [])
    (h : ∀ text ∈ texts, Framed text) : Framed (between.intercalate texts) := by
  induction texts with
  | nil => exact absurd rfl hne
  | cons text rest ih =>
    have htext := h text List.mem_cons_self
    cases rest with
    | nil => rwa [List.intercalate_singleton]
    | cons next rest =>
      rw [List.intercalate_cons_cons]
      exact htext.append between (ih (by simp) fun t ht => h t (List.mem_cons_of_mem _ ht))

end Parley.Text
