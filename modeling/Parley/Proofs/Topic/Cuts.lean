import Mathlib.Data.List.Perm.Subperm
import Parley.Proofs.Topic.Routes

/-!
# Where a walk is cut

A walk ends early in two places: at the end of a trail that has one edge more than the limit, and
where a trail comes back to its own path. Each leaves an issue, so a walk without the first kind has
seen all topics that edges lead to. A trail meets different topics, and only as many as there are.
With that limit or a greater one no trail is too long, and what is left to cut are cycles.
-/
namespace Parley.Graph

variable {g : Graph} {limit : Nat} {s u v : TopicId}

/-- `n` edges lead from `u` to `v`. -/
def Reaches (g : Graph) (n : Nat) (u v : TopicId) : Prop :=
  ∃ inheritance inherited, g.Route u n inheritance inherited v

/-- From `s` one can come to a topic from which edges lead back to itself. -/
def ReachesCycle (g : Graph) (s : TopicId) : Prop :=
  ∃ v n m, g.Reaches n s v ∧ g.Reaches (m + 1) v v

theorem Reaches.refl (g : Graph) (s : TopicId) : g.Reaches 0 s s := ⟨0, false, .start⟩

theorem Reaches.includes {n : Nat} (h : g.Reaches n s u) (hv : v ∈ (g.topic u).includes) :
    g.Reaches (n + 1) s v := by
  obtain ⟨i, b, hroute⟩ := h
  exact ⟨i, false, hroute.includes hv⟩

theorem Reaches.inherits {n : Nat} (h : g.Reaches n s u) (hv : v ∈ (g.topic u).inherits) :
    g.Reaches (n + 1) s v := by
  obtain ⟨i, b, hroute⟩ := h
  exact ⟨i + 1, true, hroute.inherits hv⟩

theorem Reaches.trans {n m : Nat} (h : g.Reaches n s u) (h' : g.Reaches m u v) :
    g.Reaches (n + m) s v := by
  obtain ⟨i, b, hroute⟩ := h'
  induction hroute with
  | start => exact h
  | includes _ hv ih => exact ih.includes hv
  | inherits _ hv ih => exact ih.inherits hv

/-- Round a cycle there are routes longer than any number. -/
theorem ReachesCycle.exists_long (h : g.ReachesCycle s) (k : Nat) :
    ∃ n v, k ≤ n ∧ g.Reaches n s v := by
  obtain ⟨v, n, m, hreach, hback⟩ := h
  suffices hlaps : ∃ n, k ≤ n ∧ g.Reaches n s v by
    obtain ⟨n, hk, hreach⟩ := hlaps
    exact ⟨n, v, hk, hreach⟩
  induction k with
  | zero => exact ⟨n, Nat.zero_le _, hreach⟩
  | succ k ih =>
    obtain ⟨n, hk, hreach⟩ := ih
    exact ⟨n + (m + 1), by omega, hreach.trans hback⟩

theorem Trail.reaches {path : List TopicId} {i : Nat} {b : Bool} (h : g.Trail s path i b v) :
    g.Reaches path.length s v := by
  induction h with
  | start => exact .refl g s
  | includes _ _ hv ih => exact ih.includes hv
  | inherits _ _ hv ih => exact ih.inherits hv

/-- From each topic on its path a trail goes on to its end. -/
theorem Trail.reaches_of_mem {path : List TopicId} {i : Nat} {b : Bool}
    (h : g.Trail s path i b v) (hu : u ∈ path) : ∃ n, g.Reaches (n + 1) u v := by
  induction h with
  | start => cases hu
  | includes _ _ hv ih =>
    obtain rfl | hu := List.mem_cons.mp hu
    · exact ⟨0, (Reaches.refl g u).includes hv⟩
    · obtain ⟨n, hreach⟩ := ih hu
      exact ⟨n + 1, hreach.includes hv⟩
  | inherits _ _ hv ih =>
    obtain rfl | hu := List.mem_cons.mp hu
    · exact ⟨0, (Reaches.refl g u).inherits hv⟩
    · obtain ⟨n, hreach⟩ := ih hu
      exact ⟨n + 1, hreach.inherits hv⟩

/-- A number out of range stands for a topic without edges. -/
theorem lt_size_of_mem_edges (h : v ∈ (g.topic u).includes ++ (g.topic u).inherits) :
    u < g.topics.size := by
  by_contra hsize
  simp [topic, Nat.le_of_not_lt hsize, Topic.new] at h

theorem Trail.lt_size_of_mem {path : List TopicId} {i : Nat} {b : Bool}
    (h : g.Trail s path i b v) (hu : u ∈ path) : u < g.topics.size := by
  induction h with
  | start => cases hu
  | includes _ _ hv ih =>
    obtain rfl | hu := List.mem_cons.mp hu
    · exact lt_size_of_mem_edges (List.mem_append_left _ hv)
    · exact ih hu
  | inherits _ _ hv ih =>
    obtain rfl | hu := List.mem_cons.mp hu
    · exact lt_size_of_mem_edges (List.mem_append_right _ hv)
    · exact ih hu

theorem Trail.nodup {path : List TopicId} {i : Nat} {b : Bool} (h : g.Trail s path i b v) :
    path.Nodup := by
  induction h with
  | start => exact .nil
  | includes _ hu _ ih => exact .cons hu ih
  | inherits _ hu _ ih => exact .cons hu ih

/-- The topics on a path are different ones of the graph. -/
theorem Trail.length_le_size {path : List TopicId} {i : Nat} {b : Bool}
    (h : g.Trail s path i b v) : path.length ≤ g.topics.size := by
  have hsubset : path ⊆ List.range g.topics.size :=
    fun u hu => List.mem_range.mpr (h.lt_size_of_mem hu)
  simpa using (List.Nodup.subperm h.nodup hsubset).length_le

theorem Trail.exists_take {path : List TopicId} {i : Nat} {b : Bool} (h : g.Trail s path i b v)
    {n : Nat} (hn : n ≤ path.length) :
    ∃ path' i' b' v', g.Trail s path' i' b' v' ∧ path'.length = n := by
  induction h with
  | start => exact ⟨[], 0, false, s, .start, (Nat.le_zero.mp hn).symm⟩
  | includes htrail hu hv ih =>
    obtain hlt | heq := Nat.lt_or_eq_of_le hn
    · exact ih (Nat.le_of_lt_succ hlt)
    · exact ⟨_, _, _, _, htrail.includes hu hv, heq.symm⟩
  | inherits htrail hu hv ih =>
    obtain hlt | heq := Nat.lt_or_eq_of_le hn
    · exact ih (Nat.le_of_lt_succ hlt)
    · exact ⟨_, _, _, _, htrail.inherits hu hv, heq.symm⟩

/-- Where no trail comes back to its path, every route is a trail. -/
theorem Route.exists_trail_of_fresh
    (hfresh : ∀ path i b v, g.Trail s path i b v → v ∉ path) {n i : Nat} {b : Bool}
    (h : g.Route s n i b v) : ∃ path, g.Trail s path i b v ∧ path.length = n := by
  induction h with
  | start => exact ⟨[], .start, rfl⟩
  | includes _ hv ih =>
    obtain ⟨path, htrail, hlength⟩ := ih
    exact ⟨_, htrail.includes (hfresh _ _ _ _ htrail) hv, congrArg (· + 1) hlength⟩
  | inherits _ hv ih =>
    obtain ⟨path, htrail, hlength⟩ := ih
    exact ⟨_, htrail.inherits (hfresh _ _ _ _ htrail) hv, congrArg (· + 1) hlength⟩

/-- A cycle can be reached exactly when some trail comes back to its path. -/
theorem reachesCycle_iff :
    g.ReachesCycle s ↔ ∃ path i b v, g.Trail s path i b v ∧ v ∈ path := by
  constructor
  · intro h
    by_contra hnone
    have hfresh : ∀ path i b v, g.Trail s path i b v → v ∉ path :=
      fun path i b v htrail hv => hnone ⟨path, i, b, v, htrail, hv⟩
    obtain ⟨n, v, hn, i, b, hroute⟩ := h.exists_long (g.topics.size + 1)
    obtain ⟨path, htrail, hlength⟩ := hroute.exists_trail_of_fresh hfresh
    have hle := htrail.length_le_size
    omega
  · rintro ⟨path, i, b, v, htrail, hv⟩
    obtain ⟨n, hback⟩ := htrail.reaches_of_mem hv
    exact ⟨v, path.length, n, htrail.reaches, hback⟩

/-- The end of a trail leaves this issue: it has gone too deep, or it has come back to its path. -/
inductive Cut (g : Graph) (limit : Nat) (path : List TopicId) (v : TopicId) : Issue → Prop
  | deep : path.length = limit + 1 → Cut g limit path v (.depthExceeded (g.topic v).name)
  | cycle : path.length ≤ limit → v ∈ path → Cut g limit path v (.cycle (g.topic v).name)

theorem exists_cut_of_met_mem_walk {budget : Nat} {path : List TopicId} {i : Nat} {b : Bool}
    {issue : Issue} (htrail : g.Trail s path i b v) (hbudget : path.length + budget = limit + 1)
    (h : Visit.met issue ∈ g.walk budget path i b v) :
    ∃ path' i' b' v', g.Trail s path' i' b' v' ∧ g.Cut limit path' v' issue := by
  induction budget generalizing path i b v with
  | zero =>
    obtain rfl : issue = .depthExceeded (g.topic v).name := by simpa [walk] using h
    exact ⟨path, i, b, v, htrail, .deep hbudget⟩
  | succ budget ih =>
    by_cases hv : v ∈ path
    · obtain rfl : issue = .cycle (g.topic v).name := by simpa [walk, hv] using h
      exact ⟨path, i, b, v, htrail, .cycle (by omega) hv⟩
    · have hbudget' : (v :: path).length + budget = limit + 1 := by
        rw [List.length_cons]
        omega
      simp only [walk, List.contains_iff_mem, hv, if_false, List.mem_append, List.mem_flatMap,
        List.mem_singleton, reduceCtorEq, or_false] at h
      obtain ⟨next, hnext, h⟩ | ⟨next, hnext, h⟩ := h
      · exact ih (htrail.includes hv hnext) hbudget' h
      · exact ih (htrail.inherits hv hnext) hbudget' h

/-- The last edge of a trail that is too long is noted. -/
theorem exceeded_mem_visits_of_trail {path : List TopicId} {i : Nat} {b : Bool}
    (htrail : g.Trail s path i b v) (hlength : path.length = limit + 1) :
    Visit.met (.depthExceeded (g.topic v).name) ∈ g.visits limit s := by
  cases htrail with
  | start => cases hlength
  | includes htrail hu hv =>
    have hlength := Nat.succ.inj hlength
    apply walk_subset_of_trail htrail (Nat.le_of_eq hlength)
    rw [hlength, Nat.add_sub_cancel_left, walk]
    simp only [List.contains_iff_mem, hu, if_false, List.mem_append, List.mem_flatMap]
    exact .inl (.inl ⟨v, hv, List.mem_singleton_self _⟩)
  | inherits htrail hu hv =>
    have hlength := Nat.succ.inj hlength
    apply walk_subset_of_trail htrail (Nat.le_of_eq hlength)
    rw [hlength, Nat.add_sub_cancel_left, walk]
    simp only [List.contains_iff_mem, hu, if_false, List.mem_append, List.mem_flatMap]
    exact .inl (.inr ⟨v, hv, List.mem_singleton_self _⟩)

theorem cycle_mem_visits_of_trail {path : List TopicId} {i : Nat} {b : Bool}
    (htrail : g.Trail s path i b v) (hlength : path.length ≤ limit) (hv : v ∈ path) :
    Visit.met (.cycle (g.topic v).name) ∈ g.visits limit s := by
  apply walk_subset_of_trail htrail hlength
  rw [show limit + 1 - path.length = limit - path.length + 1 by omega, walk]
  simp [hv]

/-- The issues of a walk are those of the trails that it cuts. -/
theorem met_mem_visits_iff {issue : Issue} :
    Visit.met issue ∈ g.visits limit s ↔
      ∃ path i b v, g.Trail s path i b v ∧ g.Cut limit path v issue := by
  constructor
  · intro h
    exact exists_cut_of_met_mem_walk .start (Nat.zero_add _) h
  · rintro ⟨path, i, b, v, htrail, hlength | ⟨hlength, hv⟩⟩
    · exact exceeded_mem_visits_of_trail htrail hlength
    · exact cycle_mem_visits_of_trail htrail hlength hv

theorem mem_issues_population {issue : Issue} :
    issue ∈ (g.population limit s).issues ↔ Visit.met issue ∈ g.visits limit s := by
  simp only [population, populationOf, List.mem_filterMap]
  constructor
  · rintro ⟨visit, hvisit, hissue⟩
    cases visit with
    | listed topic tag => cases hissue
    | met other =>
      obtain rfl := Option.some.inj hissue
      exact hvisit
  · intro h
    exact ⟨_, h, rfl⟩

/-- No issue of the walk says that it has gone too deep. -/
def Population.Uncut (population : Population) : Prop :=
  ∀ name, .depthExceeded name ∉ population.issues

theorem uncut_population_iff :
    (g.population limit s).Uncut ↔ ∀ path i b v, g.Trail s path i b v → path.length ≤ limit := by
  constructor
  · intro h path i b v htrail
    by_contra hlong
    obtain ⟨path', i', b', v', htrail', hlength⟩ :=
      htrail.exists_take (Nat.succ_le_of_lt (Nat.lt_of_not_le hlong))
    exact h _ (mem_issues_population.mpr (exceeded_mem_visits_of_trail htrail' hlength))
  · intro h name hmem
    obtain ⟨path, i, b, v, htrail, hcut⟩ := met_mem_visits_iff.mp (mem_issues_population.mp hmem)
    cases hcut with
    | deep hlength =>
      have hle := h _ _ _ _ htrail
      omega

theorem uncut_population (hsize : g.topics.size ≤ limit) : (g.population limit s).Uncut :=
  uncut_population_iff.mpr fun _ _ _ _ htrail => Nat.le_trans htrail.length_le_size hsize

/-- Without a cut for depth the walk lists all that edges lead to. -/
theorem mem_population_of_uncut (huncut : (g.population limit s).Uncut) {n : Nat}
    (hreach : g.Reaches n s v) {trigger : TriggerId} (htrigger : trigger ∈ (g.topic v).triggers) :
    ∃ depth, ⟨trigger, depth⟩ ∈ (g.population limit s).entries (g.trigger trigger).kind := by
  obtain ⟨i, b, hroute⟩ := hreach
  obtain ⟨path, i', htrail, _⟩ := hroute.exists_trail
  have hlength := uncut_population_iff.mp huncut _ _ _ _ htrail
  exact ⟨g.tag v i' b, mem_entries_populationOf.mpr
    ⟨v, htrigger, rfl, listed_mem_visits_of_trail htrail hlength⟩⟩

theorem exists_cycle_mem_issues_iff (hsize : g.topics.size ≤ limit) :
    (∃ name, .cycle name ∈ (g.population limit s).issues) ↔ g.ReachesCycle s := by
  rw [reachesCycle_iff]
  constructor
  · rintro ⟨name, hmem⟩
    obtain ⟨path, i, b, v, htrail, hcut⟩ := met_mem_visits_iff.mp (mem_issues_population.mp hmem)
    cases hcut with
    | cycle _ hv => exact ⟨path, i, b, v, htrail, hv⟩
  · rintro ⟨path, i, b, v, htrail, hv⟩
    have hlength := Nat.le_trans htrail.length_le_size hsize
    exact ⟨_, mem_issues_population.mpr (cycle_mem_visits_of_trail htrail hlength hv)⟩

/-- Two budgets that no trail uses up lead to one walk. -/
theorem walk_congr_budget {budget budget' : Nat} {path : List TopicId} {i : Nat} {b : Bool}
    (htrail : g.Trail s path i b v) (hbudget : g.topics.size < path.length + budget)
    (hbudget' : g.topics.size < path.length + budget') :
    g.walk budget path i b v = g.walk budget' path i b v := by
  have hlength := htrail.length_le_size
  induction budget generalizing budget' path i b v with
  | zero => omega
  | succ budget ih =>
    obtain _ | budget' := budget'
    · omega
    · by_cases hv : v ∈ path
      · simp [walk, hv]
      · have hlarge : g.topics.size < (v :: path).length + budget := by
          rw [List.length_cons]
          omega
        have hlarge' : g.topics.size < (v :: path).length + budget' := by
          rw [List.length_cons]
          omega
        have hincludes := List.flatMap_congr fun next hnext =>
          ih (htrail.includes hv hnext) hlarge hlarge' (htrail.includes hv hnext).length_le_size
        have hinherits := List.flatMap_congr fun next hnext =>
          ih (htrail.inherits hv hnext) hlarge hlarge' (htrail.inherits hv hnext).length_le_size
        simp only [walk, List.contains_iff_mem, hv, if_false, hincludes, hinherits]

theorem population_congr_limit {limit' : Nat} (hsize : g.topics.size ≤ limit)
    (hsize' : g.topics.size ≤ limit') : g.population limit s = g.population limit' s := by
  have hwalk : g.visits limit s = g.visits limit' s :=
    walk_congr_budget .start (by simpa using Nat.lt_succ_of_le hsize)
      (by simpa using Nat.lt_succ_of_le hsize')
  rw [population, population, hwalk]

/-- A walk that notes no excess of depth holds the triggers of all topics that edges lead to. With a
limit of as many edges as there are topics, or a greater one, no excess is noted, a cycle is noted
exactly when one can be reached, and the population does not depend on the limit. -/
theorem cuts_are_noted (g : Graph) (limit : Nat) (s : TopicId) :
    ((g.population limit s).Uncut → ∀ n v, g.Reaches n s v →
      ∀ trigger ∈ (g.topic v).triggers, ∃ depth,
        ⟨trigger, depth⟩ ∈ (g.population limit s).entries (g.trigger trigger).kind) ∧
    (g.topics.size ≤ limit →
      (g.population limit s).Uncut ∧
      ((∃ name, .cycle name ∈ (g.population limit s).issues) ↔ g.ReachesCycle s) ∧
      ∀ limit', g.topics.size ≤ limit' → g.population limit' s = g.population limit s) := by
  refine ⟨fun huncut n v hreach trigger => mem_population_of_uncut huncut hreach, fun hsize => ?_⟩
  exact ⟨uncut_population hsize, exists_cycle_mem_issues_iff hsize,
    fun limit' hsize' => population_congr_limit hsize' hsize⟩

/-- Two topics that include and inherit each other: both are seen, and the way back is noted. -/
theorem cuts_are_noted_on_cycle :
    let topics := (Graph.empty.ensure "a").ensure "b"
    let owning := (topics.addTrigger ⟨1, "hi", ⟨[.literal "hi"], 0⟩, [], none⟩).1
    let g := (owning.addInclude 0 1).addInherit 1 0
    g.topics.size ≤ 2 ∧ g.Reaches 1 0 1 ∧ 0 ∈ (g.topic 1).triggers ∧
      (∃ depth, ⟨0, depth⟩ ∈ (g.population 2 0).entries .plain) ∧
      .cycle "a" ∈ (g.population 2 0).issues ∧ g.ReachesCycle 0 ∧
      g.population 7 0 = g.population 2 0 := by
  intro topics owning g
  have hsize : g.topics.size ≤ 2 := by decide +kernel
  have howned : 0 ∈ (g.topic 1).triggers := by decide +kernel
  have hkind : (g.trigger 0).kind = .plain := by decide +kernel
  have hedge : 1 ∈ (g.topic 0).includes := by decide +kernel
  have hcycle : .cycle "a" ∈ (g.population 2 0).issues := by decide +kernel
  clear_value g
  have hreach : g.Reaches 1 0 1 := (Reaches.refl g 0).includes hedge
  obtain ⟨hlisted, hlarge⟩ := cuts_are_noted g 2 0
  obtain ⟨huncut, hcycles, hlimits⟩ := hlarge hsize
  have hseen := hlisted huncut 1 1 hreach 0 howned
  rw [hkind] at hseen
  exact ⟨hsize, hreach, howned, hseen, hcycle, hcycles.mp ⟨"a", hcycle⟩,
    hlimits 7 (Nat.le_trans hsize (by decide))⟩

end Parley.Graph
