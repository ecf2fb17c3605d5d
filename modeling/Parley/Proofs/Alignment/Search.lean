import Parley.Proofs.Alignment.Preference

/-!
# The search finds the preferred alignment

The search passes each point once. Beside it stands an exploration that remembers nothing and
tries every way in the order of preference. A point that is met again is dead, since the first
visit to it failed, so both find the same; and what the exploration finds first is the alignment
that is preferred to all others.
-/
namespace Parley.Alignment

variable {arrays : Arrays} {words : List Word}

/-- The search that remembers no points. -/
def explore (arrays : Arrays) (words : List Word) : List Token → Partial → Option Partial
  | [], m => if m.position = words.length then some m else none
  | token :: tokens, m => (m.next arrays words token).findSome? (explore arrays words tokens)

/-- Whether an exploration fails depends on the position only, not on what was captured. -/
theorem explore_eq_none_congr (tokens : List Token) {m m' : Partial}
    (h : m.position = m'.position) :
    explore arrays words tokens m = none ↔ explore arrays words tokens m' = none := by
  induction tokens generalizing m m' with
  | nil => simp [explore, h]
  | cons token tokens ih =>
    simp only [explore, Partial.next, List.findSome?_eq_none_iff, List.forall_mem_map, h]
    refine forall₂_congr fun n _ => ih ?_
    simp [Partial.take, h]

theorem firstOf_cons_of_some {attempt : Partial → Visited → Outcome} {m found : Partial}
    {visited : Visited} (h : (attempt m visited).found = some found) (ms : List Partial) :
    firstOf attempt (m :: ms) visited = attempt m visited := by
  simp [firstOf, h]

theorem firstOf_cons_of_none {attempt : Partial → Visited → Outcome} {m : Partial}
    {visited : Visited} (h : (attempt m visited).found = none) (ms : List Partial) :
    firstOf attempt (m :: ms) visited = firstOf attempt ms (attempt m visited).visited := by
  simp [firstOf, h]

section

variable {token : Token} {tokens : List Token} {m : Partial} {visited : Visited}

theorem search_of_passed (h : ⟨tokens.length + 1, m.position⟩ ∈ visited.order) :
    search arrays words (token :: tokens) m visited = ⟨none, visited⟩ := by
  simp [search, h]

theorem search_of_new (h : ⟨tokens.length + 1, m.position⟩ ∉ visited.order) :
    search arrays words (token :: tokens) m visited =
      firstOf (search arrays words tokens) (m.next arrays words token)
        (visited.insert ⟨tokens.length + 1, m.position⟩) := by
  simp [search, h]

end

/-- From a dead point the last tokens of a pattern cannot use up the words. -/
def Dead (arrays : Arrays) (words : List Word) (pattern : List Token) (point : Point) : Prop :=
  ∀ (tokens : List Token) (m : Partial), tokens <:+ pattern →
    tokens.length = point.tokensLeft → m.position = point.position →
      explore arrays words tokens m = none

/-- Among the points with at most `n` tokens left, those that were passed are dead. Points with
more tokens left may be on the way to the current one. -/
def Clear (arrays : Arrays) (words : List Word) (pattern : List Token) (n : Nat)
    (visited : Visited) : Prop :=
  ∀ point ∈ visited.order, point.tokensLeft ≤ n → Dead arrays words pattern point

/-- Where one exploration fails, all explorations with the same tokens fail. -/
theorem dead_of_explore_eq_none {pattern tokens : List Token} (hsuffix : tokens <:+ pattern)
    {m : Partial} (h : explore arrays words tokens m = none) :
    Dead arrays words pattern ⟨tokens.length, m.position⟩ := by
  intro tokens' m' hsuffix' hlength hposition
  have htokens : tokens' = tokens := by
    have hlast := List.suffix_of_suffix_length_le hsuffix' hsuffix (Nat.le_of_eq hlength)
    exact hlast.eq_of_length hlength
  subst htokens
  exact (explore_eq_none_congr _ hposition).mpr h

/-- A point may be added that has more tokens left than those which have to be dead. -/
theorem Clear.insert {pattern : List Token} {n : Nat} {visited : Visited}
    (h : Clear arrays words pattern (n + 1) visited) (position : Nat) :
    Clear arrays words pattern n (visited.insert ⟨n + 1, position⟩) := by
  intro other hother hleft
  rw [Visited.order_insert, List.mem_cons] at hother
  obtain rfl | hother := hother
  · exact absurd hleft (Nat.not_succ_le_self _)
  · exact h other hother (Nat.le_succ_of_le hleft)

/-- An outcome agrees with an exploration, and if that fails then only dead points are added. -/
structure Agrees (arrays : Arrays) (words : List Word) (pattern : List Token) (before : Visited)
    (outcome : Outcome) (explored : Option Partial) : Prop where
  found : outcome.found = explored
  passed : explored = none → ∀ point ∈ outcome.visited.order,
    point ∈ before.order ∨ Dead arrays words pattern point

theorem Agrees.clear {pattern : List Token} {n : Nat} {before : Visited} {outcome : Outcome}
    (h : Agrees arrays words pattern before outcome none)
    (hclear : Clear arrays words pattern n before) :
    Clear arrays words pattern n outcome.visited := by
  intro point hpoint hn
  obtain hbefore | hdead := h.passed rfl point hpoint
  · exact hclear point hbefore hn
  · exact hdead

theorem agrees_firstOf {pattern : List Token} {n : Nat} {attempt : Partial → Visited → Outcome}
    {trial : Partial → Option Partial}
    (hattempt : ∀ m visited, Clear arrays words pattern n visited →
      Agrees arrays words pattern visited (attempt m visited) (trial m))
    (ms : List Partial) {visited : Visited} (hclear : Clear arrays words pattern n visited) :
    Agrees arrays words pattern visited (firstOf attempt ms visited) (ms.findSome? trial) := by
  induction ms generalizing visited with
  | nil => exact ⟨rfl, fun _ point hpoint => .inl hpoint⟩
  | cons m ms ih =>
    have hfirst := hattempt m visited hclear
    cases htrial : trial m with
    | some found =>
      rw [htrial] at hfirst
      rw [firstOf_cons_of_some hfirst.found, List.findSome?_cons, htrial]
      exact hfirst
    | none =>
      rw [htrial] at hfirst
      have hrest := ih (hfirst.clear hclear)
      rw [firstOf_cons_of_none hfirst.found, List.findSome?_cons, htrial]
      refine ⟨hrest.found, fun hnone point hpoint => ?_⟩
      obtain hbefore | hdead := hrest.passed hnone point hpoint
      · exact hfirst.passed rfl point hbefore
      · exact .inr hdead

theorem agrees_search {pattern : List Token} (tokens : List Token) (hsuffix : tokens <:+ pattern)
    (m : Partial) {visited : Visited}
    (hclear : Clear arrays words pattern tokens.length visited) :
    Agrees arrays words pattern visited (search arrays words tokens m visited)
      (explore arrays words tokens m) := by
  induction tokens generalizing m visited with
  | nil => exact ⟨rfl, fun _ point hpoint => .inl hpoint⟩
  | cons token tokens ih =>
    let point : Point := ⟨tokens.length + 1, m.position⟩
    by_cases hpassed : point ∈ visited.order
    · have hdead := hclear point hpassed (Nat.le_refl _) (token :: tokens) m hsuffix rfl rfl
      rw [search_of_passed hpassed, hdead]
      exact ⟨rfl, fun _ point hpoint => .inl hpoint⟩
    · have htail : tokens <:+ pattern := (List.suffix_cons token tokens).trans hsuffix
      have hrest := agrees_firstOf (fun m visited hclear => ih htail m hclear)
        (m.next arrays words token) (hclear.insert m.position)
      rw [search_of_new hpassed]
      refine ⟨hrest.found, fun hnone other hother => ?_⟩
      obtain hbefore | hdead := hrest.passed hnone other hother
      · rw [Visited.order_insert, List.mem_cons] at hbefore
        obtain rfl | hbefore := hbefore
        · exact .inr (dead_of_explore_eq_none hsuffix hnone)
        · exact .inl hbefore
      · exact .inr hdead

/-- The memory of the search never changes what it finds. -/
theorem found_run (arrays : Arrays) (pattern : Pattern) (words : List Word) :
    (run arrays pattern words).found = explore arrays words pattern.tokens .start :=
  (agrees_search pattern.tokens (List.suffix_refl _) .start fun _ h => by simp at h).found

/-- Lets the next tokens take their shares. -/
def Partial.follow (m : Partial) : List Token → List Share → Partial
  | token :: tokens, share :: shares => (m.take token share.block.length).follow tokens shares
  | _, _ => m

theorem next_eq_map_options (m : Partial) (token : Token) :
    m.next arrays words token =
      (token.options arrays (words.drop m.position)).map fun option => m.take token option.2 := by
  rw [Partial.next, ← Token.map_snd_options, List.map_map]
  rfl

theorem full_nil_iff {rest : List Word} {shares : List Share} :
    Full arrays [] rest shares ↔ rest = [] ∧ shares = [] := by
  constructor
  · intro h
    cases h with
    | nil => exact ⟨rfl, rfl⟩
  · rintro ⟨rfl, rfl⟩
    exact .nil

theorem Full.exists_cons {token : Token} {tokens : List Token} {rest : List Word}
    {shares : List Share} (h : Full arrays (token :: tokens) rest shares) :
    ∃ share others, shares = share :: others := by
  cases h with
  | cons _ _ => exact ⟨_, _, rfl⟩

theorem Full.mem_options {token : Token} {tokens : List Token} {rest : List Word}
    {share : Share} {shares : List Share}
    (h : Full arrays (token :: tokens) rest (share :: shares)) :
    (share.choice, share.block.length) ∈ token.options arrays rest := by
  cases h with
  | cons htakes _ =>
    rw [Token.mem_options_iff, List.take_left]
    exact ⟨by simp, htakes⟩

theorem Full.take_eq_block {token : Token} {tokens : List Token} {rest : List Word}
    {share : Share} {shares : List Share}
    (h : Full arrays (token :: tokens) rest (share :: shares)) :
    rest.take share.block.length = share.block := by
  cases h with
  | cons _ _ => exact List.take_left

theorem Full.tail {token : Token} {tokens : List Token} {rest : List Word}
    {share : Share} {shares : List Share}
    (h : Full arrays (token :: tokens) rest (share :: shares)) :
    Full arrays tokens (rest.drop share.block.length) shares := by
  cases h with
  | cons _ hrest => rwa [List.drop_left]

/-- An option begins a full alignment if the other tokens have one after it. -/
theorem Full.of_mem_options {token : Token} {tokens : List Token} {rest : List Word}
    {choice : Choice} {n : Nat} {shares : List Share}
    (hoption : (choice, n) ∈ token.options arrays rest)
    (h : Full arrays tokens (rest.drop n) shares) :
    Full arrays (token :: tokens) rest (⟨choice, rest.take n⟩ :: shares) := by
  obtain ⟨_, htakes⟩ := (Token.mem_options_iff arrays token rest choice n).mp hoption
  have hfull := @Full.cons arrays token tokens _ ⟨choice, rest.take n⟩ _ htakes h
  rwa [List.take_append_drop] at hfull

theorem position_take_le {token : Token} {m : Partial} {option : Choice × Nat}
    (hposition : m.position ≤ words.length)
    (h : option ∈ token.options arrays (words.drop m.position)) :
    (m.take token option.2).position ≤ words.length := by
  obtain ⟨hle, _⟩ := (Token.mem_options_iff arrays token _ option.1 option.2).mp h
  rw [List.length_drop] at hle
  simp only [Partial.take]
  omega

theorem drop_position_take (m : Partial) (token : Token) (n : Nat) :
    words.drop (m.take token n).position = (words.drop m.position).drop n := by
  rw [List.drop_drop, Partial.take]

theorem not_full_of_explore_eq_none {tokens : List Token} {m : Partial}
    (hposition : m.position ≤ words.length) (h : explore arrays words tokens m = none)
    (shares : List Share) : ¬ Full arrays tokens (words.drop m.position) shares := by
  induction tokens generalizing m shares with
  | nil =>
    intro hfull
    obtain ⟨hend, _⟩ := full_nil_iff.mp hfull
    rw [List.drop_eq_nil_iff] at hend
    have hlength : m.position = words.length := Nat.le_antisymm hposition hend
    simp [explore, hlength] at h
  | cons token tokens ih =>
    intro hfull
    obtain ⟨share, others, rfl⟩ := hfull.exists_cons
    have hoption := hfull.mem_options
    rw [explore, next_eq_map_options, List.findSome?_map, List.findSome?_eq_none_iff] at h
    have hnone := h _ hoption
    refine ih (position_take_le hposition hoption) hnone others ?_
    rw [drop_position_take]
    exact hfull.tail

/-- If all earlier options of a token lead nowhere, then the best alignment after an option makes
the best alignment with it. -/
theorem Best.cons {token : Token} {tokens : List Token} {rest : List Word} {choice : Choice}
    {n : Nat} {earlier later : List (Choice × Nat)} {shares : List Share}
    (hoptions : token.options arrays rest = earlier ++ (choice, n) :: later)
    (hearlier : ∀ option ∈ earlier, ∀ others, ¬ Full arrays tokens (rest.drop option.2) others)
    (hbest : Best arrays tokens (rest.drop n) shares) :
    Best arrays (token :: tokens) rest (⟨choice, rest.take n⟩ :: shares) := by
  have hoption : (choice, n) ∈ token.options arrays rest := by simp [hoptions]
  refine ⟨.of_mem_options hoption hbest.full, fun others hothers => ?_⟩
  obtain ⟨other, others, rfl⟩ := hothers.exists_cons
  have hother := hothers.mem_options
  rw [hoptions, List.mem_append, List.mem_cons] at hother
  obtain hbefore | hsame | hlater := hother
  · exact absurd hothers.tail (hearlier _ hbefore others)
  · obtain ⟨hchoice, hn⟩ := Prod.mk.inj hsame
    have htail := hothers.tail
    have hblock := hothers.take_eq_block
    rw [hn] at htail hblock
    have hshare : other = ⟨choice, rest.take n⟩ := by rw [hblock, ← hchoice]
    rw [hshare]
    obtain rfl | hpreferred := hbest.preferred others htail
    · exact .inl rfl
    · exact .inr (.cons hpreferred)
  · have hpairs := Token.pairwise_options arrays token rest
    rw [hoptions, List.pairwise_append] at hpairs
    have hfirst := (List.pairwise_cons.mp hpairs.2.1).1 _ hlater
    exact .inr (.rel hfirst)

/-- What is explored first is preferred to every other alignment. -/
theorem best_of_explore_eq_some {tokens : List Token} {m found : Partial}
    (hposition : m.position ≤ words.length) (h : explore arrays words tokens m = some found) :
    ∃ shares, Best arrays tokens (words.drop m.position) shares ∧
      found = m.follow tokens shares := by
  induction tokens generalizing m with
  | nil =>
    obtain ⟨hlength, rfl⟩ : m.position = words.length ∧ m = found := by
      simpa [explore] using h
    refine ⟨[], ⟨?_, ?_⟩, rfl⟩
    · rw [hlength, List.drop_length]
      exact .nil
    · intro other hother
      exact .inl (full_nil_iff.mp hother).2
  | cons token tokens ih =>
    rw [explore, next_eq_map_options, List.findSome?_map, List.findSome?_eq_some_iff] at h
    obtain ⟨earlier, ⟨choice, n⟩, later, hoptions, hfound, hfailed⟩ := h
    have hoption : (choice, n) ∈ token.options arrays (words.drop m.position) := by
      simp [hoptions]
    have hle := (Token.mem_options_iff arrays token _ choice n).mp hoption |>.1
    obtain ⟨shares, hbest, rfl⟩ := ih (position_take_le hposition hoption) hfound
    rw [drop_position_take] at hbest
    have hearlier : ∀ option ∈ earlier, ∀ others,
        ¬ Full arrays tokens ((words.drop m.position).drop option.2) others := by
      intro option hmem
      have hoption : option ∈ token.options arrays (words.drop m.position) := by
        simp [hoptions, hmem]
      rw [← drop_position_take m token]
      exact not_full_of_explore_eq_none (position_take_le hposition hoption) (hfailed _ hmem)
    refine ⟨_, .cons hoptions hearlier hbest, ?_⟩
    simp [Partial.follow, hle, -List.length_drop]

theorem captures_take (m : Partial) (token : Token) (n : Nat) :
    (m.take token n).captures words = m.captures words ++
      if token.captures then
        [" ".intercalate (((words.drop m.position).take n).map Word.bare)] else [] := by
  by_cases h : token.captures = true
  · simp [Partial.captures, Partial.take, h, Span.block, Message.bareText]
  · simp [Partial.captures, Partial.take, h]

theorem captureTexts_cons (token : Token) (tokens : List Token) (share : Share)
    (shares : List Share) : captureTexts (token :: tokens) (share :: shares) =
      (if token.captures then [" ".intercalate (share.block.map Word.bare)] else []) ++
        captureTexts tokens shares := by
  cases token with
  | array name captured => cases captured <;> rfl
  | _ => rfl

theorem captures_follow {tokens : List Token} {m : Partial} {shares : List Share}
    (h : Full arrays tokens (words.drop m.position) shares) :
    (m.follow tokens shares).captures words =
      m.captures words ++ captureTexts tokens shares := by
  induction tokens generalizing m shares with
  | nil =>
    obtain ⟨_, rfl⟩ := full_nil_iff.mp h
    simp [Partial.follow, captureTexts]
  | cons token tokens ih =>
    obtain ⟨share, others, rfl⟩ := h.exists_cons
    have htail : Full arrays tokens
        (words.drop (m.take token share.block.length).position) others := by
      rw [drop_position_take]
      exact h.tail
    rw [Partial.follow, ih htail, captures_take, h.take_eq_block, List.append_assoc,
      captureTexts_cons]

theorem align_eq_none_iff {pattern : Pattern} :
    pattern.align arrays words = none ↔ ¬ ∃ shares, Full arrays pattern.tokens words shares := by
  have hstart : Partial.start.position ≤ words.length := Nat.zero_le _
  rw [Pattern.align, found_run, Option.map_eq_none_iff]
  cases hexplore : explore arrays words pattern.tokens .start with
  | none =>
    have hnone := not_full_of_explore_eq_none hstart hexplore
    exact iff_of_true rfl fun ⟨shares, hfull⟩ => hnone shares hfull
  | some found =>
    obtain ⟨shares, hbest, _⟩ := best_of_explore_eq_some hstart hexplore
    exact iff_of_false (by simp) fun hnone => hnone ⟨shares, hbest.full⟩

/-- A pattern aligns with a message iff there is a full alignment, and then it captures what the
preferred one captures. The points that the search remembers change nothing. -/
theorem align_finds_best (arrays : Arrays) (pattern : Pattern) (words : List Word) :
    (∀ captures, pattern.align arrays words = some captures ↔
      ∃ shares, Best arrays pattern.tokens words shares ∧
        captures = captureTexts pattern.tokens shares) ∧
    (pattern.align arrays words = none ↔
      ¬ ∃ shares, Full arrays pattern.tokens words shares) ∧
    (run arrays pattern words).found = explore arrays words pattern.tokens .start := by
  have hfound := found_run arrays pattern words
  refine ⟨fun captures => ?_, align_eq_none_iff, hfound⟩
  cases hexplore : explore arrays words pattern.tokens .start with
  | none =>
    have halign : pattern.align arrays words = none := by
      rw [Pattern.align, hfound, hexplore, Option.map_none]
    constructor
    · intro h
      rw [halign] at h
      cases h
    · rintro ⟨shares, hbest, _⟩
      exact absurd ⟨shares, hbest.full⟩ (align_eq_none_iff.mp halign)
  | some found =>
    obtain ⟨shares, hbest, hfollow⟩ := best_of_explore_eq_some (Nat.zero_le _) hexplore
    have hbest : Best arrays pattern.tokens words shares := hbest
    have hcaptures : found.captures words = captureTexts pattern.tokens shares := by
      have h := captures_follow (m := .start) hbest.full
      rw [hfollow, h]
      rfl
    have halign : pattern.align arrays words = some (captureTexts pattern.tokens shares) := by
      rw [Pattern.align, hfound, hexplore, Option.map_some, hcaptures]
    rw [halign, Option.some_inj]
    constructor
    · rintro rfl
      exact ⟨shares, hbest, rfl⟩
    · rintro ⟨others, hothers, rfl⟩
      rw [hbest.unique hothers]

end Parley.Alignment
