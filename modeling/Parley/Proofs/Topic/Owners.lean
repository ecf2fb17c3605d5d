import Parley.Proofs.Topic.Tree
import Parley.Topic.Owner

/-!
# Where the search for an owner looks

The search looks into each neighbour of a topic before it asks whether it may go on from there. So
it looks into all topics at the end of a route of at least one edge and at most one more than the
limit, also where a route comes back to its own path, and to the first topic itself. What it finds
is what the first of these topics, in the order of the search, owns.
-/
namespace Parley.Graph

variable {g : Graph} {limit : Nat} {s u v : TopicId} {text : String} {id : TriggerId}

/-- A topic owns a trigger whose pattern has this text. -/
def Owns (g : Graph) (v : TopicId) (text : String) : Prop :=
  ∃ id ∈ (g.topic v).triggers, (g.trigger id).pattern.text = text

/-- A route of at least one edge, and at most one more than the limit, leads to a topic. -/
def InSearch (g : Graph) (limit : Nat) (s v : TopicId) : Prop := ∃ n ≤ limit, g.Reaches (n + 1) s v

/-- The topics that the search looks into, in its order. -/
def lookups (g : Graph) : (budget : Nat) → (path : List TopicId) → (topic : TopicId) → List TopicId
  | 0, _, _ => []
  | budget + 1, path, topic =>
    if path.contains topic then []
    else
      ((g.topic topic).inherits ++ (g.topic topic).includes).flatMap fun next =>
        next :: lookups g budget (topic :: path) next

theorem owned?_eq_none_iff : g.owned? v text = none ↔ ¬ g.Owns v text := by
  simp [owned?, Owns, List.find?_eq_none]

theorem of_owned?_eq_some (h : g.owned? v text = some id) :
    id ∈ (g.topic v).triggers ∧ (g.trigger id).pattern.text = text := by
  refine ⟨List.mem_of_find?_eq_some h, ?_⟩
  simpa using List.find?_some (p := fun id => (g.trigger id).pattern.text == text) h

theorem Owns.exists_owned? (h : g.Owns v text) : ∃ id, g.owned? v text = some id := by
  cases howned : g.owned? v text with
  | some id => exact ⟨id, rfl⟩
  | none => exact absurd h (owned?_eq_none_iff.mp howned)

theorem findSome?_flatMap {α β γ : Type} (items : List α) (parts : α → List β) (f : β → Option γ) :
    (items.flatMap parts).findSome? f = items.findSome? fun item => (parts item).findSome? f := by
  induction items with
  | nil => rfl
  | cons item items ih =>
    rw [List.flatMap_cons, List.findSome?_append, List.findSome?_cons, ih]
    cases (parts item).findSome? f <;> rfl

theorem ownerFrom_eq (g : Graph) (text : String) (budget : Nat) (path : List TopicId)
    (topic : TopicId) :
    g.ownerFrom text budget path topic =
      (g.lookups budget path topic).findSome? (g.owned? · text) := by
  induction budget generalizing path topic with
  | zero => rfl
  | succ budget ih =>
    rw [ownerFrom, lookups]
    split_ifs with hpath
    · rfl
    · rw [findSome?_flatMap]
      refine congrArg (List.findSome? · _) (funext fun next => ?_)
      rw [List.findSome?_cons, ← ih]
      cases g.owned? next text <;> rfl

theorem lookups_of_mem {budget : Nat} {path : List TopicId} (hu : u ∈ path) :
    g.lookups (budget + 1) path u = [] := by
  simp [lookups, hu]

/-- From a topic that is not on its path the search goes on to all neighbours. -/
theorem mem_lookups_succ_iff {budget : Nat} {path : List TopicId} (hu : u ∉ path) :
    v ∈ g.lookups (budget + 1) path u ↔
      ∃ next ∈ g.neighbours u, v = next ∨ v ∈ g.lookups budget (u :: path) next := by
  have hneighbours (next : TopicId) :
      next ∈ (g.topic u).inherits ++ (g.topic u).includes ↔ next ∈ g.neighbours u := by
    rw [neighbours, List.mem_append, List.mem_append]
    exact or_comm
  have hpath : path.contains u = false := by simpa using hu
  rw [lookups, hpath, if_neg Bool.false_ne_true, List.mem_flatMap]
  simp only [hneighbours, List.mem_cons]

theorem inSearch_of_mem_lookups {budget : Nat} {path : List TopicId} {i : Nat} {b : Bool}
    (htrail : g.Trail s path i b u) (hbudget : path.length + budget = limit + 1)
    (h : v ∈ g.lookups budget path u) : g.InSearch limit s v := by
  induction budget generalizing path i b u with
  | zero => cases h
  | succ budget ih =>
    by_cases hu : u ∈ path
    · rw [lookups_of_mem hu] at h
      cases h
    · obtain ⟨next, hnext, h⟩ := (mem_lookups_succ_iff hu).mp h
      obtain rfl | h := h
      · exact ⟨path.length, by omega, htrail.reaches.neighbour hnext⟩
      · obtain ⟨i', b', htrail'⟩ := htrail.neighbour hu hnext
        have hbudget' : (u :: path).length + budget = limit + 1 := by
          rw [List.length_cons]
          omega
        exact ih htrail' hbudget' h

theorem lookups_subset_of_trail {path : List TopicId} {i : Nat} {b : Bool}
    (htrail : g.Trail s path i b v) (hlength : path.length ≤ limit) :
    g.lookups (limit + 1 - path.length) path v ⊆ g.lookups (limit + 1) [] s := by
  have hstep {path : List TopicId} {u v : TopicId} (hlength : (u :: path).length ≤ limit)
      (hu : u ∉ path) (hv : v ∈ g.neighbours u) :
      g.lookups (limit + 1 - (u :: path).length) (u :: path) v ⊆
        g.lookups (limit + 1 - path.length) path u := by
    rw [List.length_cons] at hlength ⊢
    have hbudget : limit + 1 - path.length = limit + 1 - (path.length + 1) + 1 := by omega
    rw [hbudget]
    exact fun w hw => (mem_lookups_succ_iff hu).mpr ⟨v, hv, .inr hw⟩
  induction htrail with
  | start => exact List.Subset.refl _
  | includes _ hu hv ih =>
    have hshorter := Nat.le_of_succ_le hlength
    exact List.Subset.trans (hstep hlength hu (List.mem_append_left _ hv)) (ih hshorter)
  | inherits _ hu hv ih =>
    have hshorter := Nat.le_of_succ_le hlength
    exact List.Subset.trans (hstep hlength hu (List.mem_append_right _ hv)) (ih hshorter)

/-- The last edge of a route starts from a topic that a trail leads to for the first time. -/
theorem Reaches.exists_fresh {n : Nat} (h : g.Reaches (n + 1) s v) :
    ∃ u path i b, g.Trail s path i b u ∧ u ∉ path ∧ path.length ≤ n ∧ v ∈ g.neighbours u := by
  have hfresh {u : TopicId} {i : Nat} {b : Bool} (hroute : g.Route s n i b u) :
      ∃ path i b, g.Trail s path i b u ∧ u ∉ path ∧ path.length ≤ n := by
    obtain ⟨path, i', htrail, hlength, _⟩ := hroute.exists_trail
    obtain ⟨path', i', b', htrail', hnew, hlength', _⟩ := htrail.exists_fresh
    exact ⟨path', i', b', htrail', hnew, Nat.le_trans hlength' hlength⟩
  obtain ⟨i, b, hroute⟩ := h
  cases hroute with
  | @includes _ _ _ u _ hroute hv =>
    obtain ⟨path, i, b, htrail, hnew, hlength⟩ := hfresh hroute
    exact ⟨u, path, i, b, htrail, hnew, hlength, List.mem_append_left _ hv⟩
  | @inherits _ _ _ u _ hroute hv =>
    obtain ⟨path, i, b, htrail, hnew, hlength⟩ := hfresh hroute
    exact ⟨u, path, i, b, htrail, hnew, hlength, List.mem_append_right _ hv⟩

theorem mem_lookups_iff : v ∈ g.lookups (limit + 1) [] s ↔ g.InSearch limit s v := by
  constructor
  · intro h
    exact inSearch_of_mem_lookups .start (Nat.zero_add _) h
  · intro h
    obtain ⟨n, hn, hreach⟩ := h
    obtain ⟨u, path, i, b, htrail, hu, hlength, hv⟩ := hreach.exists_fresh
    have hlength : path.length ≤ limit := Nat.le_trans hlength hn
    have hbudget : limit + 1 - path.length = limit - path.length + 1 := by omega
    apply lookups_subset_of_trail htrail hlength
    rw [hbudget]
    exact (mem_lookups_succ_iff hu).mpr ⟨v, hv, .inl rfl⟩

/-- The first topic in the order of the search that owns a trigger with this text. -/
def FirstOwner (g : Graph) (limit : Nat) (s v : TopicId) (text : String) : Prop :=
  ∃ before after, g.lookups (limit + 1) [] s = before ++ v :: after ∧ g.Owns v text ∧
    ∀ u ∈ before, ¬ g.Owns u text

theorem FirstOwner.inSearch (h : g.FirstOwner limit s v text) : g.InSearch limit s v := by
  obtain ⟨before, after, heq, _⟩ := h
  rw [← mem_lookups_iff, heq]
  exact List.mem_append_right _ (List.mem_cons_self ..)

theorem FirstOwner.owns (h : g.FirstOwner limit s v text) : g.Owns v text := by
  obtain ⟨_, _, _, howns, _⟩ := h
  exact howns

theorem owner?_eq_some_iff : g.owner? limit s text = some id ↔
    ∃ v, g.FirstOwner limit s v text ∧ g.owned? v text = some id := by
  rw [owner?, ownerFrom_eq, List.findSome?_eq_some_iff]
  constructor
  · intro h
    obtain ⟨before, v, after, heq, howned, hbefore⟩ := h
    have howns : g.Owns v text := ⟨id, of_owned?_eq_some howned⟩
    exact ⟨v, ⟨before, after, heq, howns, fun u hu => owned?_eq_none_iff.mp (hbefore u hu)⟩, howned⟩
  · intro h
    obtain ⟨v, ⟨before, after, heq, _, hbefore⟩, howned⟩ := h
    exact ⟨before, v, after, heq, howned, fun u hu => owned?_eq_none_iff.mpr (hbefore u hu)⟩

theorem FirstOwner.exists_owner? (h : g.FirstOwner limit s v text) :
    ∃ id, g.owner? limit s text = some id ∧ g.owned? v text = some id := by
  obtain ⟨id, howned⟩ := h.owns.exists_owned?
  exact ⟨id, owner?_eq_some_iff.mpr ⟨v, h, howned⟩, howned⟩

theorem owner?_eq_none_iff :
    g.owner? limit s text = none ↔ ∀ v, g.InSearch limit s v → ¬ g.Owns v text := by
  rw [owner?, ownerFrom_eq, List.findSome?_eq_none_iff]
  constructor
  · intro h v hv
    exact owned?_eq_none_iff.mp (h v (mem_lookups_iff.mpr hv))
  · intro h v hv
    exact owned?_eq_none_iff.mpr (h v (mem_lookups_iff.mp hv))

/-- If a topic in the search owns a trigger with this text, then one such topic is the first. -/
theorem exists_firstOwner (h : g.InSearch limit s v) (howns : g.Owns v text) :
    ∃ u, g.FirstOwner limit s u text := by
  cases hfound : g.owner? limit s text with
  | some found =>
    obtain ⟨u, hfirst, _⟩ := owner?_eq_some_iff.mp hfound
    exact ⟨u, hfirst⟩
  | none => exact absurd howns (owner?_eq_none_iff.mp hfound v h)

/-- The search never goes on from a topic of its own path, and yet it misses no owner: it finds
nothing exactly if no topic at the end of a route of one edge to one more than the limit owns such a
trigger, and what it finds is a trigger of such a topic. -/
theorem owner_search_is_complete (g : Graph) (limit : Nat) (s : TopicId) (text : String) :
    (g.owner? limit s text = none ↔ ∀ v, g.InSearch limit s v → ¬ g.Owns v text) ∧
      ∀ id, g.owner? limit s text = some id →
        ∃ v, g.InSearch limit s v ∧ id ∈ (g.topic v).triggers ∧
          (g.trigger id).pattern.text = text := by
  refine ⟨owner?_eq_none_iff, fun id hfound => ?_⟩
  obtain ⟨v, hfirst, howned⟩ := owner?_eq_some_iff.mp hfound
  obtain ⟨hmem, htext⟩ := of_owned?_eq_some howned
  exact ⟨v, hfirst.inSearch, hmem, htext⟩

end Parley.Graph
