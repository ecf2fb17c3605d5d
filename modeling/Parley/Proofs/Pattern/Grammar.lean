import Parley.Pattern.Reader
import Parley.Proofs.Pattern.Tags

/-!
# The grammar of patterns

What a pattern may look like, without a reader: its tags are apart from a body, the body in lower
case is cut into words and groups, and each word or group spells a token. The reader of patterns
accepts exactly the texts of this grammar, and gives the tokens and the weight that it describes.
-/
namespace Parley
open Parley.Unicode

def IsBracket (c : Char) : Prop := c ∈ ['(', ')', '[', ']']

/-- Words end at white space and brackets. -/
def EndsWord (c : Char) : Prop := isWhiteSpace c = true ∨ IsBracket c

/-- A text is cut into groups, which hold no bracket and are closed by their own kind, and the
longest words outside them. -/
inductive Lexeme.Cut : List Char → List Lexeme → Prop
  | nil : Cut [] []
  | blank {c : Char} {rest : List Char} {lexemes : List Lexeme} :
    isWhiteSpace c = true → Cut rest lexemes → Cut (c :: rest) lexemes
  | group {bracket : Bracket} {content rest : List Char} {lexemes : List Lexeme} :
    (∀ c ∈ content, ¬ IsBracket c) → Cut rest lexemes →
      Cut (bracket.opening :: (content ++ bracket.closing :: rest))
        (.group bracket content :: lexemes)
  | word {word rest : List Char} {lexemes : List Lexeme} :
    word ≠ [] → (∀ c ∈ word, ¬ EndsWord c) → (∀ c ∈ rest.head?, EndsWord c) →
      Cut rest lexemes → Cut (word ++ rest) (.word word :: lexemes)

theorem Bracket.ofOpening?_eq_some_iff {c : Char} {bracket : Bracket} :
    ofOpening? c = some bracket ↔ c = bracket.opening := by
  constructor
  · intro h
    unfold ofOpening? at h
    split at h
    · rw [← Option.some.inj h]
      rfl
    · rw [← Option.some.inj h]
      rfl
    · cases h
  · rintro rfl
    exact ofOpening?_opening bracket

theorem Bracket.ofClosing?_eq_some_iff {c : Char} {bracket : Bracket} :
    ofClosing? c = some bracket ↔ c = bracket.closing := by
  constructor
  · intro h
    unfold ofClosing? at h
    split at h
    · rw [← Option.some.inj h]
      rfl
    · rw [← Option.some.inj h]
      rfl
    · cases h
  · rintro rfl
    exact ofClosing?_closing bracket

theorem Bracket.isBracket_opening (bracket : Bracket) : IsBracket bracket.opening := by
  cases bracket <;> simp [IsBracket, opening]

theorem Bracket.isBracket_closing (bracket : Bracket) : IsBracket bracket.closing := by
  cases bracket <;> simp [IsBracket, closing]

theorem Bracket.ofOpening?_closing (bracket : Bracket) : ofOpening? bracket.closing = none := by
  cases bracket <;> rfl

theorem Bracket.ofOpening?_eq_none {c : Char} (h : ¬ IsBracket c) : ofOpening? c = none := by
  refine Option.eq_none_iff_forall_ne_some.mpr fun bracket hc => h ?_
  rw [ofOpening?_eq_some_iff.mp hc]
  exact bracket.isBracket_opening

theorem Bracket.ofClosing?_eq_none {c : Char} (h : ¬ IsBracket c) : ofClosing? c = none := by
  refine Option.eq_none_iff_forall_ne_some.mpr fun bracket hc => h ?_
  rw [ofClosing?_eq_some_iff.mp hc]
  exact bracket.isBracket_closing

theorem IsBracket.cases {c : Char} (h : IsBracket c) :
    ∃ bracket : Bracket, c = bracket.opening ∨ c = bracket.closing := by
  simp only [IsBracket, List.mem_cons, List.not_mem_nil, or_false] at h
  obtain rfl | rfl | rfl | rfl := h
  · exact ⟨.round, .inl rfl⟩
  · exact ⟨.round, .inr rfl⟩
  · exact ⟨.square, .inl rfl⟩
  · exact ⟨.square, .inr rfl⟩

theorem not_isBracket_of_isWhiteSpace {c : Char} (h : isWhiteSpace c = true) : ¬ IsBracket c := by
  intro hc
  simp only [IsBracket, List.mem_cons, List.not_mem_nil, or_false] at hc
  obtain rfl | rfl | rfl | rfl := hc <;> exact absurd h (by decide)

namespace Lexeme

theorem Scan.prepend_eq_iff {scan : Scan} {first lexemes : List Lexeme} :
    scan.prepend first = ⟨lexemes, none⟩ ↔
      ∃ later, scan = ⟨later, none⟩ ∧ lexemes = first ++ later := by
  obtain ⟨later, fault⟩ := scan
  simp only [prepend, Scan.mk.injEq]
  constructor
  · rintro ⟨rfl, rfl⟩
    exact ⟨later, ⟨rfl, rfl⟩, rfl⟩
  · rintro ⟨_, ⟨rfl, rfl⟩, rfl⟩
    exact ⟨rfl, rfl⟩

/-- The text that brought the reader where it stands. -/
def State.entered : State → List Char
  | outside run => run.reverse
  | inside bracket content => bracket.opening :: content.reverse

/-- What a reader keeps of a word or a group belongs to it. -/
def State.Clean : State → Prop
  | outside run => ∀ c ∈ run, ¬ EndsWord c
  | inside _ content => ∀ c ∈ content, ¬ IsBracket c

theorem cut_ended {run rest : List Char} {lexemes : List Lexeme}
    (hrun : (State.outside run).Clean) (hrest : ∀ c ∈ rest.head?, EndsWord c)
    (h : Cut rest lexemes) : Cut (run.reverse ++ rest) (ended run ++ lexemes) := by
  cases run with
  | nil => exact h
  | cons c run =>
    exact .word (by simp) (fun d hd => hrun d (List.mem_reverse.mp hd)) hrest h

/-- What the scan from some state finds is a cut of all that has been entered. -/
theorem cut_of_scanFrom (state : State) {text : List Char} {lexemes : List Lexeme}
    (hclean : state.Clean) (h : scanFrom state text = ⟨lexemes, none⟩) :
    Cut (state.entered ++ text) lexemes := by
  induction text generalizing state lexemes with
  | nil =>
    cases state with
    | outside run =>
      obtain ⟨rfl, _⟩ := Scan.mk.inj h
      have hcut := cut_ended hclean (by simp) .nil
      simpa [State.entered] using hcut
    | inside bracket content => cases (Scan.mk.inj h).2
  | cons c rest ih =>
    cases state with
    | outside run =>
      rw [scanFrom] at h
      split at h
      · rename_i bracket hopening
        obtain ⟨later, hlater, rfl⟩ := Scan.prepend_eq_iff.mp h
        obtain rfl := Bracket.ofOpening?_eq_some_iff.mp hopening
        refine cut_ended hclean ?_ (ih (.inside bracket []) (by simp [State.Clean]) hlater)
        simpa using .inr bracket.isBracket_opening
      · cases (Scan.mk.inj h).2
      · rename_i hopening hclosing
        split_ifs at h with hblank
        · obtain ⟨later, hlater, rfl⟩ := Scan.prepend_eq_iff.mp h
          have hcut := ih (.outside []) (by simp [State.Clean]) hlater
          exact cut_ended hclean (by simpa using .inl hblank) (.blank hblank hcut)
        · have hends : ¬ EndsWord c := by
            rintro (hblank' | hbracket)
            · exact hblank hblank'
            · obtain ⟨bracket, rfl | rfl⟩ := hbracket.cases
              · simp at hopening
              · simp at hclosing
          simpa [State.entered] using ih (.outside (c :: run))
            (List.forall_mem_cons.mpr ⟨hends, hclean⟩) h
    | inside bracket content =>
      rw [scanFrom] at h
      split at h
      · cases (Scan.mk.inj h).2
      · rename_i closing hopening hclosing
        split_ifs at h with hsame
        · obtain ⟨later, hlater, rfl⟩ := Scan.prepend_eq_iff.mp h
          obtain rfl := hsame
          obtain rfl := Bracket.ofClosing?_eq_some_iff.mp hclosing
          have hcut := ih (.outside []) (by simp [State.Clean]) hlater
          simpa [State.entered] using
            Cut.group (fun d hd => hclean d (List.mem_reverse.mp hd)) hcut
        · cases (Scan.mk.inj h).2
      · rename_i hopening hclosing
        have hbracket : ¬ IsBracket c := by
          intro hbracket
          obtain ⟨bracket, rfl | rfl⟩ := hbracket.cases
          · simp at hopening
          · simp at hclosing
        simpa [State.entered] using ih (.inside bracket (c :: content))
          (List.forall_mem_cons.mpr ⟨hbracket, hclean⟩) h

theorem scanFrom_outside_append {word : List Char} (hword : ∀ c ∈ word, ¬ EndsWord c)
    (run rest : List Char) :
    scanFrom (.outside run) (word ++ rest) = scanFrom (.outside (word.reverse ++ run)) rest := by
  induction word generalizing run with
  | nil => rfl
  | cons c word ih =>
    obtain ⟨hc, hword⟩ := List.forall_mem_cons.mp hword
    obtain ⟨hvisible, hbracket⟩ := not_or.mp hc
    rw [List.cons_append, scanFrom, Bracket.ofOpening?_eq_none hbracket,
      Bracket.ofClosing?_eq_none hbracket]
    simp [hvisible, ih hword]

theorem scanFrom_inside_append {content : List Char} (hcontent : ∀ c ∈ content, ¬ IsBracket c)
    (bracket : Bracket) (read rest : List Char) :
    scanFrom (.inside bracket read) (content ++ rest) =
      scanFrom (.inside bracket (content.reverse ++ read)) rest := by
  induction content generalizing read with
  | nil => rfl
  | cons c content ih =>
    obtain ⟨hc, hcontent⟩ := List.forall_mem_cons.mp hcontent
    rw [List.cons_append, scanFrom, Bracket.ofOpening?_eq_none hc, Bracket.ofClosing?_eq_none hc]
    simp [ih hcontent]

/-- Where a word ends it is put before what the rest holds. -/
theorem scanFrom_outside_of_ends {rest : List Char} {lexemes : List Lexeme}
    (hrest : ∀ c ∈ rest.head?, EndsWord c) (h : scanFrom (.outside []) rest = ⟨lexemes, none⟩)
    (run : List Char) : scanFrom (.outside run) rest = ⟨ended run ++ lexemes, none⟩ := by
  cases rest with
  | nil =>
    obtain ⟨rfl, _⟩ := Scan.mk.inj h
    simp [scanFrom, ended]
  | cons c rest =>
    rw [scanFrom] at h ⊢
    split at h
    · simpa [Scan.prepend, ended] using h
    · cases (Scan.mk.inj h).2
    · rename_i hopening hclosing
      have hblank : isWhiteSpace c = true := by
        refine (hrest c rfl).resolve_right fun hbracket => ?_
        obtain ⟨bracket, rfl | rfl⟩ := hbracket.cases
        · simp at hopening
        · simp at hclosing
      rw [if_pos hblank] at h ⊢
      obtain ⟨later, hlater, rfl⟩ := Scan.prepend_eq_iff.mp h
      rw [hlater]
      rfl

theorem scan_of_cut {text : List Char} {lexemes : List Lexeme} (h : Cut text lexemes) :
    scan text = ⟨lexemes, none⟩ := by
  rw [scan]
  induction h with
  | nil => rfl
  | blank hblank _ ih =>
    have hbracket := not_isBracket_of_isWhiteSpace hblank
    rw [scanFrom, Bracket.ofOpening?_eq_none hbracket, Bracket.ofClosing?_eq_none hbracket]
    simp [hblank, ih, Scan.prepend, ended]
  | @group bracket content rest lexemes hcontent _ ih =>
    rw [scanFrom, Bracket.ofOpening?_opening]
    simp only [scanFrom_inside_append hcontent]
    rw [scanFrom, Bracket.ofOpening?_closing, Bracket.ofClosing?_closing]
    simp [ih, Scan.prepend, ended]
  | @word word rest lexemes hne hword hrest _ ih =>
    rw [scanFrom_outside_append hword, scanFrom_outside_of_ends hrest ih]
    simp [ended, hne]

theorem scan_eq_iff {text : List Char} {lexemes : List Lexeme} :
    scan text = ⟨lexemes, none⟩ ↔ Cut text lexemes :=
  ⟨cut_of_scanFrom (.outside []) (by simp [State.Clean]), scan_of_cut⟩

end Lexeme

/-- One or more small letters, digits and low lines. -/
def IsName (name : List Char) : Prop := name ≠ [] ∧ ∀ c ∈ name, isNameChar c = true

/-- A word that stands for itself: no wildcard, without a star, and not the name of an array. -/
structure IsPlain (word : List Char) : Prop where
  ne_alpha : word ≠ ['_']
  ne_number : word ≠ ['#']
  star : '*' ∉ word
  at_sign : word.head? ≠ some '@'

/-- The words of a text as an alternative of a group: one or more plain words. -/
structure Phrase.Reads (text : List Char) (phrase : Phrase) : Prop where
  words : phrase = (Text.words text).map String.ofList
  ne_nil : Text.words text ≠ []
  plain : ∀ word ∈ Text.words text, IsPlain word

/-- Texts with bars between them as the alternatives of a group. -/
def Phrase.ReadsAll (content : List Char) (phrases : List Phrase) : Prop :=
  List.Forall₂ Phrase.Reads (content.splitOn '|') phrases

/-- A word or a group spells a token. -/
inductive Token.Spelled : Lexeme → Token → Prop
  | any : Spelled (.word ['*']) (.wild .any)
  | alpha : Spelled (.word ['_']) (.wild .alpha)
  | number : Spelled (.word ['#']) (.wild .number)
  | array {name : List Char} :
    IsName name → Spelled (.word ('@' :: name)) (.array (String.ofList name) false)
  | literal {word : List Char} :
    IsPlain word → Spelled (.word word) (.literal (String.ofList word))
  | captured {content name : List Char} :
    Text.trim content = '@' :: name → IsName name →
      Spelled (.group .round content) (.array (String.ofList name) true)
  | alternation {content : List Char} {phrases : List Phrase} :
    Phrase.ReadsAll (Text.trim content) phrases →
      Spelled (.group .round content) (.alternation phrases)
  | optional {content : List Char} {phrases : List Phrase} :
    Phrase.ReadsAll (Text.trim content) phrases →
      Spelled (.group .square content) (.optional phrases)

theorem arrayName_eq_ok_iff {name : List Char} {text : String} :
    arrayName name = .ok text ↔ IsName name ∧ text = String.ofList name := by
  rw [arrayName]
  split_ifs with h
  · have hname : IsName name := by simpa [IsName] using h
    simp [hname, eq_comm]
  · have hname : ¬ IsName name := by simpa [IsName] using h
    simp [hname]

theorem IsName.not_mem {name : List Char} (h : IsName name) {c : Char}
    (hc : isNameChar c = false) : c ∉ name := by
  intro hmem
  rw [h.2 c hmem] at hc
  cases hc

namespace Phrase

theorem isPlain_iff {word : List Char} : isPlain word = true ↔ IsPlain word := by
  simp only [isPlain, Bool.and_eq_true, bne_iff_ne, ne_eq, Bool.not_eq_true',
    List.contains_eq_mem, decide_eq_false_iff_not]
  exact ⟨fun ⟨⟨⟨halpha, hnumber⟩, hstar⟩, hat⟩ => ⟨halpha, hnumber, hstar, hat⟩,
    fun h => ⟨⟨⟨h.ne_alpha, h.ne_number⟩, h.star⟩, h.at_sign⟩⟩

theorem read_eq_ok_iff {text : List Char} {phrase : Phrase} :
    read text = .ok phrase ↔ Reads text phrase := by
  rw [read]
  constructor
  · intro h
    split_ifs at h with hempty
    split at h
    · cases h
    · rename_i hfind
      refine ⟨(Except.ok.inj h).symm, by simpa using hempty, fun word hword => ?_⟩
      have hplain := List.find?_eq_none.mp hfind word hword
      exact isPlain_iff.mp (by simpa using hplain)
  · rintro ⟨rfl, hne, hplain⟩
    have hfind : (Text.words text).find? (!isPlain ·) = none :=
      List.find?_eq_none.mpr fun word hword => by simp [isPlain_iff.mpr (hplain word hword)]
    simp [hne, hfind]

theorem readAll_eq_ok_iff {texts : List (List Char)} {phrases : List Phrase} :
    readAll texts = .ok phrases ↔ List.Forall₂ Reads texts phrases := by
  induction texts generalizing phrases with
  | nil => simp [readAll, eq_comm]
  | cons text rest ih =>
    simp only [readAll, bind_eq_ok_iff, read_eq_ok_iff, ih, List.forall₂_cons_left_iff]
    simp [pure, Except.pure, eq_comm]

theorem ReadsAll.ne_nil {content : List Char} {phrases : List Phrase}
    (h : ReadsAll content phrases) : content ≠ [] := by
  rintro rfl
  obtain ⟨phrase, _, hreads, _⟩ := List.forall₂_cons_left_iff.mp h
  exact hreads.ne_nil rfl

/-- A text that begins with the sign of an array has no plain alternatives. -/
theorem not_readsAll_at (name : List Char) (phrases : List Phrase) :
    ¬ ReadsAll ('@' :: name) phrases := by
  intro h
  rw [ReadsAll, ← Text.pieces_eq_splitOn] at h
  obtain ⟨piece, others, hpieces⟩ := Text.exists_pieces_cons (· == '|') name (c := '@') (by decide)
  rw [hpieces, List.forall₂_cons_left_iff] at h
  obtain ⟨phrase, _, hreads, _⟩ := h
  obtain ⟨word, words, hwords⟩ := Text.exists_pieces_cons isWhiteSpace piece (c := '@') (by decide)
  have hmem : '@' :: word ∈ Text.words ('@' :: piece) := by simp [Text.words, hwords]
  exact (hreads.plain _ hmem).at_sign rfl

end Phrase

namespace Token

theorem ofWord_eq_ok_iff {word : List Char} {token : Token} :
    ofWord word = .ok token ↔ Spelled (.word word) token := by
  constructor
  · intro h
    unfold ofWord at h
    split at h
    · rw [← Except.ok.inj h]
      exact .any
    · rw [← Except.ok.inj h]
      exact .alpha
    · rw [← Except.ok.inj h]
      exact .number
    · rename_i name
      obtain ⟨text, htext, h⟩ := bind_eq_ok_iff.mp h
      obtain ⟨hname, rfl⟩ := arrayName_eq_ok_iff.mp htext
      rw [← Except.ok.inj h]
      exact .array hname
    · rename_i hany halpha hnumber hat
      split_ifs at h with hstar
      rw [← Except.ok.inj h]
      refine .literal ⟨halpha, hnumber, by simpa using hstar, fun hhead => ?_⟩
      obtain ⟨name, rfl⟩ := List.head?_eq_some_iff.mp hhead
      exact hat name rfl
  · intro h
    cases h with
    | any => rfl
    | alpha => rfl
    | number => rfl
    | array hname =>
      rw [ofWord, arrayName_eq_ok_iff.mpr ⟨hname, rfl⟩]
      rfl
    | literal hplain =>
      unfold ofWord
      split
      · exact absurd (by simp) hplain.star
      · exact absurd rfl hplain.ne_alpha
      · exact absurd rfl hplain.ne_number
      · exact absurd rfl hplain.at_sign
      · simp [hplain.star]

theorem ofPhrases_eq_ok_iff {bracket : Bracket} {content : List Char} {token : Token} :
    ofPhrases bracket content = .ok token ↔ ∃ phrases, Phrase.ReadsAll content phrases ∧
      token = match bracket with
        | .round => .alternation phrases
        | .square => .optional phrases := by
  rw [ofPhrases, Text.pieces_eq_splitOn, bind_eq_ok_iff]
  refine exists_congr fun phrases => and_congr Phrase.readAll_eq_ok_iff ?_
  exact ⟨fun h => (Except.ok.inj h).symm, fun h => congrArg Except.ok h.symm⟩

/-- A group is read as alternatives where it is no captured array. -/
theorem ofGroup_of_readsAll {bracket : Bracket} {content : List Char} {phrases : List Phrase}
    (h : Phrase.ReadsAll (Text.trim content) phrases) :
    ofGroup bracket content = ofPhrases bracket (Text.trim content) := by
  unfold ofGroup
  split
  · rename_i hempty
    exact absurd hempty h.ne_nil
  · rename_i name hat
    rw [hat] at h
    exact absurd h (Phrase.not_readsAll_at name phrases)
  · rfl

theorem ofGroup_eq_ok_iff {bracket : Bracket} {content : List Char} {token : Token} :
    ofGroup bracket content = .ok token ↔ Spelled (.group bracket content) token := by
  constructor
  · intro h
    have hphrases : ∀ kind, ofPhrases kind (Text.trim content) = .ok token →
        Spelled (.group kind content) token := by
      intro kind hkind
      obtain ⟨phrases, hreads, rfl⟩ := ofPhrases_eq_ok_iff.mp hkind
      cases kind with
      | round => exact .alternation hreads
      | square => exact .optional hreads
    unfold ofGroup at h
    split at h
    · cases h
    · rename_i name htrim
      split_ifs at h with hbar
      · rw [← htrim] at h
        exact hphrases .round h
      · obtain ⟨text, htext, h⟩ := bind_eq_ok_iff.mp h
        obtain ⟨hname, rfl⟩ := arrayName_eq_ok_iff.mp htext
        rw [← Except.ok.inj h]
        exact .captured htrim hname
    · exact hphrases _ h
  · intro h
    cases h with
    | captured htrim hname =>
      unfold ofGroup
      rw [htrim]
      have hbar := hname.not_mem (c := '|') (by decide)
      simp [hbar, arrayName_eq_ok_iff.mpr ⟨hname, rfl⟩, bind, Except.bind, pure, Except.pure]
    | alternation hreads =>
      rw [ofGroup_of_readsAll hreads]
      exact ofPhrases_eq_ok_iff.mpr ⟨_, hreads, rfl⟩
    | optional hreads =>
      rw [ofGroup_of_readsAll hreads]
      exact ofPhrases_eq_ok_iff.mpr ⟨_, hreads, rfl⟩

theorem ofLexeme_eq_ok_iff {lexeme : Lexeme} {token : Token} :
    ofLexeme lexeme = .ok token ↔ Spelled lexeme token := by
  cases lexeme with
  | word text => exact ofWord_eq_ok_iff
  | group bracket content => exact ofGroup_eq_ok_iff

theorem ofLexemes_eq_ok_iff {lexemes : List Lexeme} {tokens : List Token} :
    ofLexemes lexemes = .ok tokens ↔ List.Forall₂ Spelled lexemes tokens := by
  induction lexemes generalizing tokens with
  | nil => simp [ofLexemes, eq_comm]
  | cons lexeme rest ih =>
    simp only [ofLexemes, bind_eq_ok_iff, ofLexeme_eq_ok_iff, ih, List.forall₂_cons_left_iff]
    simp [pure, Except.pure, eq_comm]

end Token

namespace Pattern

/-- The text of a pattern: its tags are apart and declare weights, its body in lower case is cut
into words and groups, at least one, and each of them spells a token. -/
inductive Grammatical (text : List Char) : Prop
  | intro {body : List Char} {tags : List (List Char)} {lexemes : List Lexeme} :
    Tag.Parts text body tags → (∀ tag ∈ tags, ∃ n, Tag.Declares tag n) →
      Lexeme.Cut (lowercase body) lexemes →
      (∀ lexeme ∈ lexemes, ∃ token, Token.Spelled lexeme token) → lexemes ≠ [] →
      Grammatical text

/-- A text writes the pattern of the tokens that its words and groups spell, in their order, with
the weight that its last tag declares, or zero without a tag. -/
inductive Written (text : List Char) : Pattern → Prop
  | intro {body : List Char} {tags : List (List Char)} {weights : List Nat}
    {lexemes : List Lexeme} {tokens : List Token} :
    Tag.Parts text body tags → List.Forall₂ Tag.Declares tags weights →
      Lexeme.Cut (lowercase body) lexemes → List.Forall₂ Token.Spelled lexemes tokens →
      lexemes ≠ [] → Written text ⟨tokens, weights.getLast?.getD 0⟩

theorem readBody_eq_ok_iff {body : List Char} {tokens : List Token} :
    readBody body = .ok tokens ↔ ∃ lexemes, Lexeme.Cut (lowercase body) lexemes ∧
      List.Forall₂ Token.Spelled lexemes tokens ∧ lexemes ≠ [] := by
  simp only [readBody, bind_eq_ok_iff, Token.ofLexemes_eq_ok_iff]
  constructor
  · rintro ⟨read, hspelled, h⟩
    split at h
    · cases h
    · rename_i hfault
      split_ifs at h with hempty
      obtain rfl := Except.ok.inj h
      refine ⟨_, Lexeme.scan_eq_iff.mp ?_, hspelled, ?_⟩
      · rw [← hfault]
      · intro hnil
        rw [hnil, List.forall₂_nil_left_iff] at hspelled
        exact hempty (by simp [hspelled])
  · rintro ⟨lexemes, hcut, hspelled, hne⟩
    rw [Lexeme.scan_eq_iff.mpr hcut]
    refine ⟨tokens, hspelled, ?_⟩
    have hne' : tokens ≠ [] := by
      rintro rfl
      exact hne (List.forall₂_nil_right_iff.mp hspelled)
    simp [hne']

theorem read_eq_ok_iff {text : String} {p : Pattern} :
    read text = .ok p ↔ Written text.toList p := by
  rw [read, bind_eq_ok_iff]
  constructor
  · rintro ⟨⟨body, weight⟩, hstrip, h⟩
    obtain ⟨tokens, hbody, h⟩ := bind_eq_ok_iff.mp h
    obtain ⟨tags, weights, hparts, hweights, rfl⟩ := Tag.strip_eq_ok_iff.mp hstrip
    obtain ⟨lexemes, hcut, hspelled, hne⟩ := readBody_eq_ok_iff.mp hbody
    rw [← Except.ok.inj h]
    exact .intro hparts hweights hcut hspelled hne
  · rintro ⟨hparts, hweights, hcut, hspelled, hne⟩
    refine ⟨_, Tag.strip_eq_ok_iff.mpr ⟨_, _, hparts, hweights, rfl⟩, bind_eq_ok_iff.mpr ?_⟩
    exact ⟨_, readBody_eq_ok_iff.mpr ⟨_, hcut, hspelled, hne⟩, rfl⟩

theorem exists_written_iff {text : List Char} : (∃ p, Written text p) ↔ Grammatical text := by
  constructor
  · rintro ⟨_, hparts, hweights, hcut, hspelled, hne⟩
    exact .intro hparts (exists_forall₂_iff.mp ⟨_, hweights⟩) hcut
      (exists_forall₂_iff.mp ⟨_, hspelled⟩) hne
  · rintro ⟨hparts, hweights, hcut, hspelled, hne⟩
    obtain ⟨weights, hweights⟩ := exists_forall₂_iff.mpr hweights
    obtain ⟨tokens, hspelled⟩ := exists_forall₂_iff.mpr hspelled
    exact ⟨_, .intro hparts hweights hcut hspelled hne⟩

/-- A text is read as a pattern exactly when it is one by the grammar, and it is read as the pattern
that it writes. -/
theorem reads_its_grammar (text : String) :
    ((∃ p, read text = .ok p) ↔ Grammatical text.toList) ∧
      ∀ p, read text = .ok p ↔ Written text.toList p := by
  refine ⟨?_, fun p => read_eq_ok_iff⟩
  rw [← exists_written_iff]
  exact exists_congr fun p => read_eq_ok_iff

end Pattern
end Parley
