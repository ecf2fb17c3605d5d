import Mathlib.Data.Finset.Prod
import Mathlib.Logic.Relation
import Parley.Proofs.Alignment.Captures

/-!
# The search as a loop over a stack

The recursion of the search can be unfolded into a loop. Open branches wait on a stack, and a turn
takes the top one off: it answers with a branch that has used up tokens and words, drops a branch
that cannot go on, and else expands the state of the branch, which puts all ways to go on upon the
stack. Tokens and words are read by their numbers here, and a turn that reads one out of range says
so. The loop reads none, expands no state twice, ends, and expands in its order the points that the
search passes.
-/
namespace Parley.Alignment

/-- The words from `start` up to `stop`, unless these are out of range. -/
def slice? (words : List Word) (start stop : Nat) : Option (List Word) :=
  if start ≤ stop ∧ stop ≤ words.length then some ((words.drop start).take (stop - start)) else none

/-- The texts of the captured blocks, unless one is out of range. -/
def Partial.captures? (m : Partial) (words : List Word) : Option (List String) :=
  (m.spans.reverse.mapM fun span => slice? words span.start span.stop).map
    (List.map Message.bareText)

/-- A partial alignment that waits on the stack. -/
structure Branch where
  /-- How many tokens are passed. -/
  passed : Nat
  reached : Partial

namespace Branch

/-- How many tokens are passed and how many words are taken: what decides how a branch goes on. -/
def state (branch : Branch) : Nat × Nat := (branch.passed, branch.reached.position)

/-- The ways to let the next token take words from the front of `rest`, the preferred ones first. -/
def next (arrays : Arrays) (branch : Branch) (token : Token) (rest : List Word) : List Branch :=
  (token.choices arrays rest).map fun n => ⟨branch.passed + 1, branch.reached.take token n⟩

end Branch

/-- Where the loop stands between two turns. -/
structure Loop where
  /-- The open branches, the top one first. -/
  stack : List Branch
  /-- The states that were expanded, latest first. -/
  expanded : List (Nat × Nat)

/-- What a turn comes to. -/
inductive Turn where
  | goOn (next : Loop)
  | answer (captures : Option (List String))
  | outOfRange

namespace Loop

def start : Loop := ⟨[⟨0, .start⟩], []⟩

/-- Takes the top branch off the stack and deals with it. -/
def turn (arrays : Arrays) (pattern : Pattern) (words : List Word) (loop : Loop) : Turn :=
  match loop.stack with
  | [] => .answer none
  | branch :: stack =>
    if branch.passed = pattern.tokens.length then
      if branch.reached.position = words.length then
        match branch.reached.captures? words with
        | some captures => .answer (some captures)
        | none => .outOfRange
      else .goOn ⟨stack, loop.expanded⟩
    else if branch.state ∈ loop.expanded then .goOn ⟨stack, loop.expanded⟩
    else
      match slice? words branch.reached.position words.length, pattern.tokens[branch.passed]? with
      | some rest, some token =>
        .goOn ⟨branch.next arrays token rest ++ stack, branch.state :: loop.expanded⟩
      | _, _ => .outOfRange

end Loop

variable {arrays : Arrays} {pattern : Pattern} {words : List Word}

/-- One turn leads from `loop` to `next`. -/
def Follows (arrays : Arrays) (pattern : Pattern) (words : List Word) (loop next : Loop) : Prop :=
  loop.turn arrays pattern words = .goOn next

/-- Some number of turns, or none, lead from one stand of the loop to another. -/
def Runs (arrays : Arrays) (pattern : Pattern) (words : List Word) : Loop → Loop → Prop :=
  Relation.ReflTransGen (Follows arrays pattern words)

/-- The states that can be expanded. -/
def grid (pattern : Pattern) (words : List Word) : Finset (Nat × Nat) :=
  Finset.range pattern.tokens.length ×ˢ Finset.range (words.length + 1)

theorem mem_grid_iff {state : Nat × Nat} :
    state ∈ grid pattern words ↔ state.1 < pattern.tokens.length ∧ state.2 ≤ words.length := by
  rw [grid, Finset.mem_product, Finset.mem_range, Finset.mem_range, Nat.lt_succ_iff]

theorem slice?_to_end {position : Nat} (h : position ≤ words.length) :
    slice? words position words.length = some (words.drop position) := by
  have htake : (words.drop position).take (words.length - position) = words.drop position :=
    List.take_of_length_le (Nat.le_of_eq List.length_drop)
  rw [slice?, if_pos ⟨h, Nat.le_refl _⟩, htake]

theorem slice?_span {span : Span} (h : span.stop ≤ words.length) :
    slice? words span.start span.stop = some (span.block words) := by
  have hlength : span.stop - span.start = span.length := Nat.add_sub_cancel_left ..
  rw [slice?, if_pos ⟨Nat.le_add_right .., h⟩, hlength, Span.block]

theorem mapM_slice? {spans : List Span} (h : ∀ span ∈ spans, span.stop ≤ words.length) :
    (spans.mapM fun span => slice? words span.start span.stop) =
      some (spans.map (Span.block · words)) := by
  induction spans with
  | nil => rfl
  | cons span spans ih =>
    rw [List.forall_mem_cons] at h
    simp [List.mapM_cons, slice?_span h.1, ih h.2]

theorem captures?_eq_some {m : Partial} (h : ∀ span ∈ m.spans, span.stop ≤ words.length) :
    m.captures? words = some (m.captures words) := by
  rw [Partial.captures?, mapM_slice? fun span hspan => h span (List.mem_reverse.mp hspan)]
  simp [Partial.captures, Function.comp_def]

section Turns

variable {branch : Branch} {stack : List Branch} {expanded : List (Nat × Nat)} {token : Token}

theorem state_mem_grid (htoken : pattern.tokens[branch.passed]? = some token)
    (hposition : branch.reached.position ≤ words.length) : branch.state ∈ grid pattern words :=
  mem_grid_iff.mpr ⟨(List.getElem?_eq_some_iff.mp htoken).1, hposition⟩

theorem turn_of_whole (hpassed : branch.passed = pattern.tokens.length)
    (hposition : branch.reached.position = words.length)
    (hspans : ∀ span ∈ branch.reached.spans, span.stop ≤ words.length) :
    Loop.turn arrays pattern words ⟨branch :: stack, expanded⟩ =
      .answer (some (branch.reached.captures words)) := by
  simp [Loop.turn, hpassed, hposition, captures?_eq_some hspans]

theorem follows_of_unfinished (hpassed : branch.passed = pattern.tokens.length)
    (hposition : branch.reached.position ≠ words.length) :
    Follows arrays pattern words ⟨branch :: stack, expanded⟩ ⟨stack, expanded⟩ := by
  simp [Follows, Loop.turn, hpassed, hposition]

theorem follows_of_expanded (hpassed : branch.passed ≠ pattern.tokens.length)
    (hexpanded : branch.state ∈ expanded) :
    Follows arrays pattern words ⟨branch :: stack, expanded⟩ ⟨stack, expanded⟩ := by
  simp [Follows, Loop.turn, hpassed, hexpanded]

theorem follows_of_new (htoken : pattern.tokens[branch.passed]? = some token)
    (hposition : branch.reached.position ≤ words.length) (hnew : branch.state ∉ expanded) :
    Follows arrays pattern words ⟨branch :: stack, expanded⟩
      ⟨branch.next arrays token (words.drop branch.reached.position) ++ stack,
        branch.state :: expanded⟩ := by
  have hpassed : branch.passed ≠ pattern.tokens.length :=
    Nat.ne_of_lt (List.getElem?_eq_some_iff.mp htoken).1
  simp [Follows, Loop.turn, hpassed, hnew, slice?_to_end hposition, htoken]

/-- A turn that goes on has dropped the top branch, or has expanded its state, which was not
expanded before. -/
theorem Follows.cases {loop next : Loop} (h : Follows arrays pattern words loop next) :
    ∃ branch stack, loop.stack = branch :: stack ∧
      (next = ⟨stack, loop.expanded⟩ ∨
        ∃ token, pattern.tokens[branch.passed]? = some token ∧
          branch.state ∈ grid pattern words ∧ branch.state ∉ loop.expanded ∧
          next = ⟨branch.next arrays token (words.drop branch.reached.position) ++ stack,
            branch.state :: loop.expanded⟩) := by
  obtain ⟨_ | ⟨branch, stack⟩, expanded⟩ := loop
  · cases h
  refine ⟨branch, stack, rfl, ?_⟩
  simp only [Follows, Loop.turn] at h
  split at h
  · split at h
    · split at h <;> cases h
    · cases h
      exact .inl rfl
  split at h
  · cases h
    exact .inl rfl
  rename_i hnew
  split at h
  · rename_i rest token hrest htoken
    have hposition : branch.reached.position ≤ words.length := by
      by_contra hlt
      simp [slice?, hlt] at hrest
    rw [slice?_to_end hposition] at hrest
    cases hrest
    cases h
    exact .inr ⟨token, htoken, state_mem_grid htoken hposition, hnew, rfl⟩
  · cases h

end Turns

/-- What is left to do: the states that are not expanded yet, and then the branches on the stack. -/
def Loop.remaining (pattern : Pattern) (words : List Word) (loop : Loop) : Nat × Nat :=
  ((grid pattern words \ loop.expanded.toFinset).card, loop.stack.length)

/-- A turn may put any number of branches upon the stack, but then it has expanded a state. -/
theorem Follows.remaining_lt {loop next : Loop} (h : Follows arrays pattern words loop next) :
    Prod.Lex (· < ·) (· < ·) (next.remaining pattern words) (loop.remaining pattern words) := by
  obtain ⟨branch, stack, hstack, rfl | ⟨token, _, hgrid, hnew, rfl⟩⟩ := h.cases
  · refine .right _ ?_
    simp [hstack]
  · refine .left _ _ ?_
    refine Finset.card_lt_card (Finset.ssubset_iff_of_subset ?_ |>.mpr ⟨branch.state, ?_, ?_⟩)
    · exact Finset.sdiff_subset_sdiff (Finset.Subset.refl _) (by simp)
    · simp [hgrid, hnew]
    · simp

/-- The loop cannot go on for ever, wherever it starts. -/
theorem wellFounded_follows :
    WellFounded fun next loop => Follows arrays pattern words loop next :=
  Subrelation.wf Follows.remaining_lt
    (InvImage.wf (Loop.remaining pattern words) (Prod.lex Nat.lt_wfRel Nat.lt_wfRel).wf)

/-- A branch has passed the first tokens of the pattern and holds what they took. -/
structure Branch.Sound (arrays : Arrays) (pattern : Pattern) (words : List Word)
    (branch : Branch) : Prop where
  passed_le : branch.passed ≤ pattern.tokens.length
  records : Records arrays words (pattern.tokens.take branch.passed) branch.reached

/-- All branches are sound, and the states that were expanded are in range and different. -/
structure Loop.Sound (arrays : Arrays) (pattern : Pattern) (words : List Word)
    (loop : Loop) : Prop where
  branches : ∀ branch ∈ loop.stack, branch.Sound arrays pattern words
  inside : ∀ state ∈ loop.expanded, state ∈ grid pattern words
  nodup : loop.expanded.Nodup

namespace Branch.Sound

variable {branch : Branch}

theorem stop_le (h : branch.Sound arrays pattern words) :
    ∀ span ∈ branch.reached.spans, span.stop ≤ words.length :=
  fun span hspan => Nat.le_trans (h.records.behind span hspan) h.records.position_le

/-- A branch holds one block for each token that it passed and that captures. -/
theorem length_spans (h : branch.Sound arrays pattern words) :
    branch.reached.spans.length =
      (pattern.tokens.take branch.passed).countP Token.captures := by
  rw [List.countP_eq_length_filter, h.records.taken.length_eq, List.length_reverse]

/-- Whatever the next token may take, it keeps a branch sound. -/
theorem next {token : Token} (h : branch.Sound arrays pattern words)
    (htoken : pattern.tokens[branch.passed]? = some token) :
    ∀ other ∈ branch.next arrays token (words.drop branch.reached.position),
      other.Sound arrays pattern words := by
  intro other hother
  obtain ⟨n, hn, rfl⟩ := List.mem_map.mp hother
  rw [← Token.map_snd_options, List.mem_map] at hn
  obtain ⟨⟨choice, n⟩, hoption, rfl⟩ := hn
  refine ⟨(List.getElem?_eq_some_iff.mp htoken).1, ?_⟩
  rw [List.take_add_one, htoken]
  exact h.records.take hoption

end Branch.Sound

namespace Loop.Sound

variable {loop next : Loop}

theorem start : Loop.start.Sound arrays pattern words where
  branches := by
    simp only [Loop.start, List.mem_singleton, forall_eq]
    exact ⟨Nat.zero_le _, records_start arrays words⟩
  inside := by simp [Loop.start]
  nodup := .nil

theorem follows (h : loop.Sound arrays pattern words)
    (hnext : Follows arrays pattern words loop next) : next.Sound arrays pattern words := by
  obtain ⟨branch, stack, hstack, hcases⟩ := hnext.cases
  have hbranches := h.branches
  rw [hstack, List.forall_mem_cons] at hbranches
  obtain ⟨hbranch, hbelow⟩ := hbranches
  obtain rfl | ⟨token, htoken, hgrid, hnew, rfl⟩ := hcases
  · exact ⟨hbelow, h.inside, h.nodup⟩
  · refine ⟨?_, ?_, ?_⟩
    · exact List.forall_mem_append.mpr ⟨hbranch.next htoken, hbelow⟩
    · exact List.forall_mem_cons.mpr ⟨hgrid, h.inside⟩
    · exact List.nodup_cons.mpr ⟨hnew, h.nodup⟩

theorem runs (h : loop.Sound arrays pattern words) (hruns : Runs arrays pattern words loop next) :
    next.Sound arrays pattern words := by
  induction hruns with
  | refl => exact h
  | tail _ hnext ih => exact ih.follows hnext

theorem turn_ne_outOfRange (h : loop.Sound arrays pattern words) :
    loop.turn arrays pattern words ≠ .outOfRange := by
  obtain ⟨_ | ⟨branch, stack⟩, expanded⟩ := loop
  · simp [Loop.turn]
  have hbranch := h.branches branch List.mem_cons_self
  have hcaptures := captures?_eq_some hbranch.stop_le
  by_cases hpassed : branch.passed = pattern.tokens.length
  · by_cases hposition : branch.reached.position = words.length <;>
      simp [Loop.turn, hpassed, hposition, hcaptures]
  · have hlt : branch.passed < pattern.tokens.length := Nat.lt_of_le_of_ne hbranch.passed_le hpassed
    by_cases hexpanded : branch.state ∈ expanded
    · simp [Loop.turn, hpassed, hexpanded]
    · simp [Loop.turn, hpassed, hexpanded, hlt, slice?_to_end hbranch.records.position_le]

theorem length_expanded_le (h : loop.Sound arrays pattern words) :
    loop.expanded.length ≤ pattern.tokens.length * (words.length + 1) := by
  have hsubset : loop.expanded.toFinset ⊆ grid pattern words :=
    fun state hstate => h.inside state (List.mem_toFinset.mp hstate)
  calc loop.expanded.length
      = loop.expanded.toFinset.card := (List.toFinset_card_of_nodup h.nodup).symm
    _ ≤ (grid pattern words).card := Finset.card_le_card hsubset
    _ = pattern.tokens.length * (words.length + 1) := by simp [grid]

end Loop.Sound

/-- The point of the search that a state of the loop is. -/
def pointOf (pattern : Pattern) (state : Nat × Nat) : Point :=
  ⟨pattern.tokens.length - state.1, state.2⟩

theorem pointOf_inj {state other : Nat × Nat} (hstate : state ∈ grid pattern words)
    (hother : other ∈ grid pattern words) (h : pointOf pattern state = pointOf pattern other) :
    state = other := by
  obtain ⟨hleft, hposition⟩ := Point.mk.inj h
  have hlt := (mem_grid_iff.mp hstate).1
  have hlt' := (mem_grid_iff.mp hother).1
  refine Prod.ext ?_ hposition
  omega

theorem mem_map_pointOf_iff {expanded : List (Nat × Nat)} {state : Nat × Nat}
    (hexpanded : ∀ other ∈ expanded, other ∈ grid pattern words)
    (hstate : state ∈ grid pattern words) :
    pointOf pattern state ∈ expanded.map (pointOf pattern) ↔ state ∈ expanded := by
  constructor
  · intro h
    obtain ⟨other, hother, heq⟩ := List.mem_map.mp h
    rwa [← pointOf_inj (hexpanded other hother) hstate heq]
  · exact List.mem_map_of_mem

theorem Loop.Sound.nodup_map_pointOf {loop : Loop} (h : loop.Sound arrays pattern words) :
    (loop.expanded.map (pointOf pattern)).Nodup :=
  h.nodup.map_on fun state hstate other hother =>
    pointOf_inj (h.inside state hstate) (h.inside other hother)

/-- The loop has come as far as a search with this outcome: it has expanded the points that are
passed, and the branches above `stack` are gone or what was found is on top. -/
structure Settles (pattern : Pattern) (words : List Word) (stack : List Branch) (outcome : Outcome)
    (loop : Loop) : Prop where
  order : outcome.visited.order = loop.expanded.map (pointOf pattern)
  failed : outcome.found = none → loop.stack = stack
  found : ∀ m, outcome.found = some m → m.position = words.length ∧
    ∃ others, loop.stack = ⟨pattern.tokens.length, m⟩ :: others

/-- With these branches on top of any stack, the loop does what the attempt does. -/
def Simulates (arrays : Arrays) (pattern : Pattern) (words : List Word) (branches : List Branch)
    (attempt : Visited → Outcome) : Prop :=
  ∀ (stack : List Branch) (expanded : List (Nat × Nat)) (visited : Visited),
    Loop.Sound arrays pattern words ⟨branches ++ stack, expanded⟩ →
    visited.order = expanded.map (pointOf pattern) →
    ∃ next, Runs arrays pattern words ⟨branches ++ stack, expanded⟩ next ∧
      Settles pattern words stack (attempt visited) next

theorem simulates_firstOf {attempt : Partial → Visited → Outcome} {passed : Nat}
    (ms : List Partial)
    (hattempt : ∀ m, Simulates arrays pattern words [⟨passed, m⟩] (attempt m)) :
    Simulates arrays pattern words (ms.map (Branch.mk passed)) (firstOf attempt ms) := by
  induction ms with
  | nil =>
    intro stack expanded visited _ horder
    exact ⟨_, .refl, horder, fun _ => rfl, by simp [firstOf]⟩
  | cons m ms ih =>
    intro stack expanded visited hsound horder
    obtain ⟨⟨below, expanded'⟩, hruns, hfirst⟩ := hattempt m _ expanded visited hsound horder
    cases hfound : (attempt m visited).found with
    | some found =>
      rw [firstOf_cons_of_some hfound]
      exact ⟨_, hruns, hfirst.order, by simp [hfound], hfirst.found⟩
    | none =>
      rw [firstOf_cons_of_none hfound]
      obtain rfl : below = ms.map (Branch.mk passed) ++ stack := hfirst.failed hfound
      obtain ⟨next, hrest, hsettles⟩ := ih stack expanded' _ (hsound.runs hruns) hfirst.order
      exact ⟨next, hruns.trans hrest, hsettles⟩

theorem simulates_search_nil {branch : Branch} (hpassed : pattern.tokens.length ≤ branch.passed) :
    Simulates arrays pattern words [branch] (search arrays words [] branch.reached) := by
  intro stack expanded visited hsound horder
  have hbranch := hsound.branches branch List.mem_cons_self
  have hpassed : branch.passed = pattern.tokens.length :=
    Nat.le_antisymm hbranch.passed_le hpassed
  by_cases hposition : branch.reached.position = words.length
  · have hsearch : search arrays words [] branch.reached visited =
        ⟨some branch.reached, visited⟩ := by
      simp [search, hposition]
    rw [hsearch]
    refine ⟨_, .refl, horder, by simp, ?_⟩
    rintro _ ⟨⟩
    exact ⟨hposition, stack, by rw [← hpassed]; rfl⟩
  · have hsearch : search arrays words [] branch.reached visited = ⟨none, visited⟩ := by
      simp [search, hposition]
    rw [hsearch]
    exact ⟨_, .single (follows_of_unfinished hpassed hposition), horder, fun _ => rfl, by simp⟩

theorem simulates_search_cons {branch : Branch} {token : Token} {tokens : List Token}
    (htokens : pattern.tokens.drop branch.passed = token :: tokens)
    (hrest : ∀ m, Simulates arrays pattern words [⟨branch.passed + 1, m⟩]
      (search arrays words tokens m)) :
    Simulates arrays pattern words [branch]
      (search arrays words (token :: tokens) branch.reached) := by
  intro stack expanded visited hsound horder
  have hposition := (hsound.branches branch List.mem_cons_self).records.position_le
  have htoken : pattern.tokens[branch.passed]? = some token := by
    rw [← List.head?_drop, htokens, List.head?_cons]
  have hlt : branch.passed < pattern.tokens.length := (List.getElem?_eq_some_iff.mp htoken).1
  have hpoint : pointOf pattern branch.state = ⟨tokens.length + 1, branch.reached.position⟩ := by
    have hlength := congrArg List.length htokens
    rw [List.length_drop, List.length_cons] at hlength
    rw [pointOf, Branch.state, hlength]
  have hmem : ⟨tokens.length + 1, branch.reached.position⟩ ∈ visited.order ↔
      branch.state ∈ expanded := by
    rw [← hpoint, horder]
    exact mem_map_pointOf_iff hsound.inside (state_mem_grid htoken hposition)
  by_cases hexpanded : branch.state ∈ expanded
  · rw [search_of_passed (hmem.mpr hexpanded)]
    exact ⟨_, .single (follows_of_expanded (Nat.ne_of_lt hlt) hexpanded), horder, fun _ => rfl,
      by simp⟩
  · rw [search_of_new fun h => hexpanded (hmem.mp h)]
    have hnext : branch.next arrays token (words.drop branch.reached.position) =
        (branch.reached.next arrays words token).map (Branch.mk (branch.passed + 1)) := by
      simp [Branch.next, Partial.next]
    have hfollows : Follows arrays pattern words ⟨branch :: stack, expanded⟩
        ⟨branch.next arrays token (words.drop branch.reached.position) ++ stack,
          branch.state :: expanded⟩ := follows_of_new htoken hposition hexpanded
    rw [hnext] at hfollows
    obtain ⟨next, hruns, hsettles⟩ := simulates_firstOf _ hrest stack _
      (visited.insert ⟨tokens.length + 1, branch.reached.position⟩) (hsound.follows hfollows)
      (by rw [Visited.order_insert, List.map_cons, hpoint, horder])
    exact ⟨next, .head hfollows hruns, hsettles⟩

/-- A branch on top of the stack is dealt with as the search deals with the tokens that are left. -/
theorem simulates_search (tokens : List Token) {passed : Nat}
    (htokens : pattern.tokens.drop passed = tokens) (m : Partial) :
    Simulates arrays pattern words [⟨passed, m⟩] (search arrays words tokens m) := by
  induction tokens generalizing passed m with
  | nil => exact simulates_search_nil (List.drop_eq_nil_iff.mp htokens)
  | cons token tokens ih =>
    have htail : pattern.tokens.drop (passed + 1) = tokens := by
      rw [← List.tail_drop, htokens, List.tail_cons]
    exact simulates_search_cons htokens (ih htail)

/-- From the start the loop comes to a stand at which it answers. Until then it has expanded the
points that the search passes, in the same order. -/
theorem exists_last (arrays : Arrays) (pattern : Pattern) (words : List Word) :
    ∃ last, Runs arrays pattern words .start last ∧
      last.turn arrays pattern words = .answer (pattern.align arrays words) ∧
      (run arrays pattern words).visited.order = last.expanded.map (pointOf pattern) := by
  obtain ⟨⟨stack, expanded⟩, hruns, hsettles⟩ :=
    simulates_search pattern.tokens List.drop_zero .start [] [] .empty Loop.Sound.start rfl
  have hsound := Loop.Sound.start.runs hruns
  refine ⟨_, hruns, ?_, hsettles.order⟩
  rw [Pattern.align]
  cases hfound : (run arrays pattern words).found with
  | none =>
    obtain rfl : stack = [] := hsettles.failed hfound
    rfl
  | some m =>
    obtain ⟨hposition, others, rfl⟩ := hsettles.found m hfound
    have hbranch := hsound.branches _ List.mem_cons_self
    exact turn_of_whole rfl hposition hbranch.stop_le

/-- The loop ends from wherever it stands. On its way from the start it reads nothing out of range:
the branches on its stack have passed tokens and taken words that there are, and hold one block for
each capturing token that they passed. It expands no state twice. It answers what the pattern
captures, and by then it has expanded the points that the search passes, in the same order. -/
theorem loop_expands_states_once (arrays : Arrays) (pattern : Pattern) (words : List Word) :
    (WellFounded fun next loop => Follows arrays pattern words loop next) ∧
    (∀ loop, Runs arrays pattern words .start loop →
      loop.turn arrays pattern words ≠ .outOfRange ∧
      (∀ branch ∈ loop.stack,
        branch.passed ≤ pattern.tokens.length ∧ branch.reached.position ≤ words.length ∧
        (∀ span ∈ branch.reached.spans, span.stop ≤ words.length) ∧
        branch.reached.spans.length =
          (pattern.tokens.take branch.passed).countP Token.captures) ∧
      loop.expanded.Nodup ∧
      loop.expanded.length ≤ pattern.tokens.length * (words.length + 1)) ∧
    (∃ last, Runs arrays pattern words .start last ∧
      last.turn arrays pattern words = .answer (pattern.align arrays words) ∧
      (run arrays pattern words).visited.order = last.expanded.map (pointOf pattern)) ∧
    (run arrays pattern words).visited.order.Nodup ∧
    (run arrays pattern words).visited.order.length ≤
      pattern.tokens.length * (words.length + 1) := by
  obtain ⟨last, hlast, hanswer, horder⟩ := exists_last arrays pattern words
  have hsound := Loop.Sound.start.runs hlast
  refine ⟨wellFounded_follows, fun loop hloop => ?_, ⟨last, hlast, hanswer, horder⟩, ?_, ?_⟩
  · have hsound := Loop.Sound.start.runs hloop
    refine ⟨hsound.turn_ne_outOfRange, fun branch hmem => ?_, hsound.nodup,
      hsound.length_expanded_le⟩
    have hbranch := hsound.branches branch hmem
    exact ⟨hbranch.passed_le, hbranch.records.position_le, hbranch.stop_le, hbranch.length_spans⟩
  · rw [horder]
    exact hsound.nodup_map_pointOf
  · rw [horder, List.length_map]
    exact hsound.length_expanded_le

/-- Two wildcards and a word that does not come, against three words: after five turns a branch is
on top whose state was expanded already, and one below it whose state was not. -/
theorem loop_expands_states_once_two_stars :
    let pattern : Pattern := ⟨[.wild .any, .wild .any, .literal "d"], 0⟩
    let words : List Word := [⟨"a", "a"⟩, ⟨"b", "b"⟩, ⟨"c", "c"⟩]
    let loop : Loop := ⟨[⟨2, ⟨3, [⟨1, 2⟩, ⟨0, 1⟩]⟩⟩, ⟨2, ⟨2, [⟨1, 1⟩, ⟨0, 1⟩]⟩⟩],
      [(1, 1), (2, 3), (1, 2), (1, 3), (0, 0)]⟩
    Runs .empty pattern words .start loop ∧ loop.turn .empty pattern words ≠ .outOfRange ∧
      loop.expanded.Nodup ∧ loop.expanded.length ≤ 3 * (3 + 1) := by
  intro pattern words loop
  have hruns : Runs .empty pattern words .start loop :=
    .head rfl (.head rfl (.head rfl (.head rfl (.head rfl .refl))))
  obtain ⟨_, hall, _⟩ := loop_expands_states_once .empty pattern words
  obtain ⟨hturn, _, hnodup, hlength⟩ := hall loop hruns
  exact ⟨hruns, hturn, hnodup, hlength⟩

end Parley.Alignment
