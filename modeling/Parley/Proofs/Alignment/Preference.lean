import Mathlib.Data.List.Forall2
import Parley.Alignment.Search

/-!
# The preferred alignment

An alignment gives every token of a pattern a choice and a block of words, so that the blocks in
their order are all the words. Two alignments differ first at some token, and the choices there
decide which one is preferred. This module says what alignments are and how they compare, without
a search, and that `Token.choices` lists what a token may take in the order of preference.
-/
namespace Parley

/-- What a token decides on, besides the words themselves. -/
inductive Choice where
  /-- The one word of a literal. -/
  | word
  /-- A run of so many words. -/
  | run (length : Nat)
  /-- The phrase that is declared at this place, counted from zero. -/
  | phrase (place : Nat)
  /-- Nothing, which is open to optional groups only. -/
  | nothing
  deriving DecidableEq

/-- The order of preference between choices of one token. -/
inductive Choice.Preferred : Choice → Choice → Prop
  | longer {m n : Nat} : m < n → Preferred (.run n) (.run m)
  | earlier {i j : Nat} : i < j → Preferred (.phrase i) (.phrase j)
  | something (i : Nat) : Preferred (.phrase i) .nothing

theorem Choice.Preferred.asymm {a b : Choice} (h : a.Preferred b) : ¬ b.Preferred a := by
  cases h with
  | longer hab => intro h; cases h; omega
  | earlier hab => intro h; cases h; omega
  | something i => intro h; cases h

theorem Word.is_iff {word : Word} {literal : String} :
    word.is literal = true ↔ word.bare = literal ∨ word.raw = literal := by
  simp [Word.is]

/-- The words that a wildcard may take: any word, one of letters, or one of the digits from 0 to 9,
as its bare form tells. -/
def WildKind.Admits : WildKind → Word → Prop
  | .any, _ => True
  | .alpha, word => ∀ c ∈ word.bare.toList, Unicode.isAlphabetic c = true
  | .number, word => ∀ c ∈ word.bare.toList, '0' ≤ c ∧ c ≤ '9'

theorem WildKind.admits_iff {kind : WildKind} {word : Word} :
    kind.admits word = true ↔ kind.Admits word := by
  cases kind with
  | any => simp [admits, Admits]
  | alpha => simp [admits, Admits, Word.isAlphabetic]
  | number => simp [admits, Admits, Word.isNumeric, Decimal.isDigit]

/-- Word by word, a block spells a phrase in one of the forms of its words. -/
def Phrase.Spells (phrase : Phrase) (block : List Word) : Prop :=
  List.Forall₂ (fun literal word => word.bare = literal ∨ word.raw = literal) phrase block

theorem Phrase.Spells.length_eq {phrase : Phrase} {block : List Word}
    (h : Phrase.Spells phrase block) : phrase.length = block.length :=
  List.Forall₂.length_eq h

theorem Phrase.fits_iff_spells (phrase : Phrase) (words : List Word) :
    Phrase.fits phrase words = true ↔ Phrase.Spells phrase (words.take phrase.length) := by
  unfold Spells
  induction phrase generalizing words with
  | nil => simp [fits]
  | cons literal phrase ih =>
    cases words with
    | nil => simp [fits]
    | cons word words => simp [fits, Word.is_iff, ih]

/-- A token may take a block of words by a choice. -/
inductive Token.Takes (arrays : Arrays) : Token → Choice → List Word → Prop
  | literal {literal : String} {word : Word} :
    word.bare = literal ∨ word.raw = literal → Takes arrays (.literal literal) .word [word]
  | wild {kind : WildKind} {block : List Word} :
    block ≠ [] → (∀ word ∈ block, kind.Admits word) →
      Takes arrays (.wild kind) (.run block.length) block
  | alternation {phrases : List Phrase} {phrase : Phrase} {i : Nat} {block : List Word} :
    phrases[i]? = some phrase → Phrase.Spells phrase block →
      Takes arrays (.alternation phrases) (.phrase i) block
  | optional {phrases : List Phrase} {phrase : Phrase} {i : Nat} {block : List Word} :
    phrases[i]? = some phrase → Phrase.Spells phrase block →
      Takes arrays (.optional phrases) (.phrase i) block
  | nothing {phrases : List Phrase} : Takes arrays (.optional phrases) .nothing []
  /-- An array that is not defined has no choice. -/
  | array {name : String} {captured : Bool} {phrases : List Phrase} {phrase : Phrase} {i : Nat}
      {block : List Word} :
    arrays.get? name = some phrases → phrases[i]? = some phrase → Phrase.Spells phrase block →
      Takes arrays (.array name captured) (.phrase i) block

namespace Alignment

/-- The share of one token in an alignment. -/
structure Share where
  choice : Choice
  block : List Word
  deriving DecidableEq

/-- The shares of the tokens, left to right, use up all the words. -/
inductive Full (arrays : Arrays) : List Token → List Word → List Share → Prop
  | nil : Full arrays [] [] []
  | cons {token : Token} {tokens : List Token} {words : List Word} {share : Share}
      {shares : List Share} :
    token.Takes arrays share.choice share.block → Full arrays tokens words shares →
      Full arrays (token :: tokens) (share.block ++ words) (share :: shares)

/-- The order of preference between alignments: the first different choice decides. -/
def Preferred (a b : List Share) : Prop :=
  List.Lex Choice.Preferred (a.map Share.choice) (b.map Share.choice)

/-- A full alignment that is preferred to every other one. -/
structure Best (arrays : Arrays) (tokens : List Token) (words : List Word)
    (shares : List Share) : Prop where
  full : Full arrays tokens words shares
  preferred : ∀ other, Full arrays tokens words other → other = shares ∨ Preferred shares other

/-- The bare forms of a block of words, apart by spaces, for each token that captures its block:
wildcards, alternations and arrays in round brackets do. -/
def captureTexts : List Token → List Share → List String
  | token :: tokens, share :: shares =>
    let text := " ".intercalate (share.block.map Word.bare)
    match token with
    | .wild _ | .alternation _ | .array _ true => text :: captureTexts tokens shares
    | .literal _ | .optional _ | .array _ false => captureTexts tokens shares
  | _, _ => []

theorem Preferred.asymm {a b : List Share} (h : Preferred a b) : ¬ Preferred b a := by
  unfold Preferred at *
  generalize a.map Share.choice = c at *
  generalize b.map Share.choice = d at *
  induction h with
  | nil => intro h; cases h
  | rel hab =>
    intro h
    cases h with
    | rel hba => exact hab.asymm hba
    | cons _ => exact hab.asymm hab
  | cons _ ih =>
    intro h
    cases h with
    | rel haa => exact haa.asymm haa
    | cons h => exact ih h

theorem Best.unique {arrays : Arrays} {tokens : List Token} {words : List Word}
    {a b : List Share} (ha : Best arrays tokens words a) (hb : Best arrays tokens words b) :
    a = b := by
  obtain h | hab := ha.preferred b hb.full
  · exact h.symm
  obtain h | hba := hb.preferred a ha.full
  · exact h
  exact absurd hba hab.asymm

end Alignment

/-- The phrases that fit, each with its place and its length. -/
def Phrase.placed (phrases : List Phrase) (words : List Word) : List (Choice × Nat) :=
  (phrases.zipIdx.filter fun (phrase, _) => fits phrase words).map
    fun (phrase, i) => (.phrase i, phrase.length)

namespace Token

/-- What a token may decide on, with the number of words that it then takes. -/
def options (arrays : Arrays) (token : Token) (words : List Word) : List (Choice × Nat) :=
  match token with
  | literal word => if Phrase.fits [word] words then [(.word, 1)] else []
  | wild kind =>
    (List.range' 1 (words.takeWhile kind.admits).length).reverse.map fun n => (.run n, n)
  | alternation phrases => Phrase.placed phrases words
  | optional phrases => Phrase.placed phrases words ++ [(.nothing, 0)]
  | array name _ => ((arrays.get? name).map (Phrase.placed · words)).getD []

theorem map_snd_placed (phrases : List Phrase) (words : List Word) :
    (Phrase.placed phrases words).map Prod.snd = Phrase.fitting phrases words := by
  unfold Phrase.placed Phrase.fitting
  generalize 0 = i
  induction phrases generalizing i with
  | nil => rfl
  | cons phrase phrases ih =>
    have hrest := ih (i + 1)
    simp only [List.map_map] at hrest
    by_cases h : Phrase.fits phrase words = true <;>
      simp [List.zipIdx_cons, h, hrest]

/-- Without their names, the options are the choices of the search. -/
theorem map_snd_options (arrays : Arrays) (token : Token) (words : List Word) :
    (token.options arrays words).map Prod.snd = token.choices arrays words := by
  cases token with
  | literal word => simp only [options, choices]; split <;> rfl
  | wild kind => simp [options, choices, Function.comp_def]
  | alternation phrases => exact map_snd_placed phrases words
  | optional phrases => simp [options, choices, map_snd_placed]
  | array name captured =>
    cases h : arrays.get? name with
    | none => simp [options, choices, h]
    | some phrases => simp [options, choices, h, map_snd_placed]

theorem mem_placed_iff (phrases : List Phrase) (words : List Word) (choice : Choice) (n : Nat) :
    (choice, n) ∈ Phrase.placed phrases words ↔ n ≤ words.length ∧
      ∃ i phrase, choice = .phrase i ∧ phrases[i]? = some phrase ∧
        Phrase.Spells phrase (words.take n) := by
  simp only [Phrase.placed, List.mem_map, List.mem_filter, Phrase.fits_iff_spells, Prod.exists,
    List.mem_zipIdx_iff_getElem?, Prod.mk.injEq]
  constructor
  · intro h
    obtain ⟨phrase, i, ⟨hget, hspells⟩, rfl, rfl⟩ := h
    have hlength := hspells.length_eq
    rw [List.length_take] at hlength
    exact ⟨by omega, i, phrase, rfl, hget, hspells⟩
  · intro h
    obtain ⟨hn, i, phrase, rfl, hget, hspells⟩ := h
    have hlength : phrase.length = n := by
      rw [hspells.length_eq, List.length_take]
      omega
    exact ⟨phrase, i, ⟨hget, by rwa [hlength]⟩, rfl, hlength⟩

/-- A first part of the words is admitted iff it lies within the longest admitted run. -/
theorem all_take_iff_le_takeWhile (admits : Word → Bool) (words : List Word) (n : Nat) :
    (n ≤ words.length ∧ ∀ word ∈ words.take n, admits word = true) ↔
      n ≤ (words.takeWhile admits).length := by
  induction words generalizing n with
  | nil => simp
  | cons word words ih =>
    cases n with
    | zero => simp
    | succ n =>
      by_cases h : admits word = true
      · simp [h, ← ih n]
      · simp [h]

theorem mem_options_literal_iff (arrays : Arrays) (literal : String) (words : List Word)
    (choice : Choice) (n : Nat) : (choice, n) ∈ options arrays (.literal literal) words ↔
      n ≤ words.length ∧ Takes arrays (.literal literal) choice (words.take n) := by
  cases words with
  | nil =>
    simp only [options, Phrase.fits, Bool.false_eq_true, if_false, List.not_mem_nil, false_iff]
    rintro ⟨_, htakes⟩
    rw [List.take_nil] at htakes
    cases htakes
  | cons word words =>
    constructor
    · intro h
      have hword : word.is literal = true := by
        by_contra hne
        simp [options, Phrase.fits, hne] at h
      obtain ⟨rfl, rfl⟩ : choice = .word ∧ n = 1 := by
        simpa [options, Phrase.fits, hword] using h
      exact ⟨by simp, .literal (Word.is_iff.mp hword)⟩
    · rintro ⟨hn, htakes⟩
      have hlength := List.length_take_of_le hn
      generalize hblock : (word :: words).take n = block at htakes hlength
      cases htakes with
      | literal hword =>
        obtain rfl : n = 1 := hlength.symm
        obtain rfl : word = _ := by simpa using hblock
        simp [options, Phrase.fits, Word.is_iff.mpr hword]

theorem mem_options_wild_iff (arrays : Arrays) (kind : WildKind) (words : List Word)
    (choice : Choice) (n : Nat) : (choice, n) ∈ options arrays (.wild kind) words ↔
      n ≤ words.length ∧ Takes arrays (.wild kind) choice (words.take n) := by
  have hmem : (choice, n) ∈ options arrays (.wild kind) words ↔ choice = .run n ∧ 1 ≤ n ∧
      n ≤ (words.takeWhile kind.admits).length := by
    simp only [options, List.mem_map, List.mem_reverse, List.mem_range'_1, Prod.mk.injEq]
    constructor
    · intro h
      obtain ⟨_, ⟨hpos, hle⟩, rfl, rfl⟩ := h
      exact ⟨rfl, hpos, by omega⟩
    · intro h
      obtain ⟨rfl, hpos, hle⟩ := h
      exact ⟨n, ⟨hpos, by omega⟩, rfl, rfl⟩
  rw [hmem, ← all_take_iff_le_takeWhile]
  constructor
  · intro h
    obtain ⟨rfl, hpos, hn, hall⟩ := h
    have hlength := List.length_take_of_le hn
    have htakes : Takes arrays (.wild kind) (.run (words.take n).length) (words.take n) :=
      .wild (by rw [← List.length_pos_iff]; omega) fun word hword =>
        WildKind.admits_iff.mp (hall word hword)
    exact ⟨hn, by rwa [hlength] at htakes⟩
  · intro h
    obtain ⟨hn, htakes⟩ := h
    have hlength := List.length_take_of_le hn
    generalize hblock : words.take n = block at htakes hlength ⊢
    cases htakes with
    | wild hne hall =>
      have hpos := List.length_pos_iff.mpr hne
      exact ⟨by rw [hlength], by omega, hn, fun word hword =>
        WildKind.admits_iff.mpr (hall word hword)⟩

theorem mem_options_optional_iff (arrays : Arrays) (phrases : List Phrase) (words : List Word)
    (choice : Choice) (n : Nat) : (choice, n) ∈ options arrays (.optional phrases) words ↔
      n ≤ words.length ∧ Takes arrays (.optional phrases) choice (words.take n) := by
  simp only [options, List.mem_append, mem_placed_iff, List.mem_singleton, Prod.mk.injEq]
  constructor
  · intro h
    obtain ⟨hn, i, phrase, rfl, hget, hspells⟩ | ⟨rfl, rfl⟩ := h
    · exact ⟨hn, .optional hget hspells⟩
    · exact ⟨Nat.zero_le _, .nothing⟩
  · intro h
    obtain ⟨hn, htakes⟩ := h
    generalize hblock : words.take n = block at htakes ⊢
    cases htakes with
    | optional hget hspells => exact .inl ⟨hn, _, _, rfl, hget, hspells⟩
    | nothing =>
      have hlength := congrArg List.length hblock
      rw [List.length_take_of_le hn] at hlength
      exact .inr ⟨rfl, hlength⟩

/-- The options are what the token may take from the front of the words. -/
theorem mem_options_iff (arrays : Arrays) (token : Token) (words : List Word) (choice : Choice)
    (n : Nat) : (choice, n) ∈ token.options arrays words ↔
      n ≤ words.length ∧ token.Takes arrays choice (words.take n) := by
  cases token with
  | literal literal => exact mem_options_literal_iff arrays literal words choice n
  | wild kind => exact mem_options_wild_iff arrays kind words choice n
  | alternation phrases =>
    simp only [options, mem_placed_iff, and_congr_right_iff]
    intro _
    constructor
    · rintro ⟨i, phrase, rfl, hget, hspells⟩
      exact .alternation hget hspells
    · intro htakes
      cases htakes with
      | alternation hget hspells => exact ⟨_, _, rfl, hget, hspells⟩
  | optional phrases => exact mem_options_optional_iff arrays phrases words choice n
  | array name captured =>
    constructor
    · intro h
      cases hname : arrays.get? name with
      | none => simp [options, hname] at h
      | some phrases =>
        simp only [options, hname, Option.map_some, Option.getD_some, mem_placed_iff] at h
        obtain ⟨hn, i, phrase, rfl, hget, hspells⟩ := h
        exact ⟨hn, .array hname hget hspells⟩
    · rintro ⟨hn, htakes⟩
      cases htakes with
      | array hname hget hspells =>
        simp only [options, hname, Option.map_some, Option.getD_some, mem_placed_iff]
        exact ⟨hn, _, _, rfl, hget, hspells⟩

theorem pairwise_placed (phrases : List Phrase) (words : List Word) :
    (Phrase.placed phrases words).Pairwise fun a b => a.1.Preferred b.1 := by
  have hplaces : phrases.zipIdx.Pairwise fun a b => a.2 < b.2 := by
    rw [List.pairwise_iff_getElem]
    intro i j hi hj hij
    simpa using hij
  refine List.Pairwise.map _ ?_ (hplaces.filter _)
  intro a b hab
  exact .earlier hab

/-- The options come in the order of preference. -/
theorem pairwise_options (arrays : Arrays) (token : Token) (words : List Word) :
    (token.options arrays words).Pairwise fun a b => a.1.Preferred b.1 := by
  cases token with
  | literal literal => simp only [options]; split <;> simp
  | wild kind =>
    refine List.Pairwise.map _ ?_ (List.pairwise_reverse.mpr (List.pairwise_lt_range' _))
    intro a b hab
    exact .longer hab
  | alternation phrases => exact pairwise_placed phrases words
  | optional phrases =>
    refine List.pairwise_append.mpr ⟨pairwise_placed phrases words, List.pairwise_singleton _ _, ?_⟩
    rintro ⟨choice, n⟩ ha b hb
    obtain ⟨_, i, _, rfl, _⟩ := (mem_placed_iff phrases words choice n).mp ha
    obtain rfl := List.mem_singleton.mp hb
    exact .something i
  | array name captured =>
    simp only [options]
    cases arrays.get? name with
    | none => exact .nil
    | some phrases => exact pairwise_placed phrases words

end Token
end Parley
