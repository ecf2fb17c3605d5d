import Parley.Bot.Basic
import Parley.Proofs.Bot.Runs
import Parley.Proofs.Topic.Cuts
import Parley.Topic.Tree

/-!
# Which topics the tree lists

The traversal that makes the tree of a topic enters each topic once, by the route that comes first
and with the edges which that route has left. So it lists only topics within the limit, and it goes
on from each of them to every neighbour: a neighbour is listed, or it is noted as too deep. A topic
that a long route meets first can thus be noted, or keep others from being listed, although a short
route leads to it. The tree is exact when, and only when, no topic within the limit is noted.
-/
namespace Parley.Graph

variable {g : Graph} {limit : Nat} {s u v topic : TopicId} {tree tree' : Tree}

/-- At most `limit` edges lead from `s` to `v`. -/
def InReach (g : Graph) (limit : Nat) (s v : TopicId) : Prop := ∃ n ≤ limit, g.Reaches n s v

/-- A topic is noted as too deep. -/
def Tree.Notes (g : Graph) (tree : Tree) (v : TopicId) : Prop :=
  .depthExceeded (g.topic v).name ∈ tree.issues

/-- A topic is listed or noted. -/
def Tree.Meets (g : Graph) (tree : Tree) (v : TopicId) : Prop :=
  v ∈ tree.topics ∨ tree.Notes g v

def neighbours (g : Graph) (u : TopicId) : List TopicId :=
  (g.topic u).includes ++ (g.topic u).inherits

theorem Reaches.neighbour {n : Nat} (h : g.Reaches n s u) (hv : v ∈ g.neighbours u) :
    g.Reaches (n + 1) s v := by
  obtain hv | hv := List.mem_append.mp hv
  · exact h.includes hv
  · exact h.inherits hv

theorem Trail.neighbour {path : List TopicId} {i : Nat} {b : Bool} (h : g.Trail s path i b u)
    (hu : u ∉ path) (hv : v ∈ g.neighbours u) : ∃ i' b', g.Trail s (u :: path) i' b' v := by
  obtain hv | hv := List.mem_append.mp hv
  · exact ⟨i, false, h.includes hu hv⟩
  · exact ⟨i + 1, true, h.inherits hu hv⟩

theorem growTree_of_mem {budget : Nat} (h : topic ∈ tree.topics) :
    g.growTree (budget + 1) tree topic = tree := by
  simp [growTree, h]

theorem growTree_of_not_mem {budget : Nat} (h : topic ∉ tree.topics) :
    g.growTree (budget + 1) tree topic = (g.neighbours topic).foldl (growTree g budget)
      { tree with topics := tree.topics ++ [topic] } := by
  simp [growTree, neighbours, h]

/-- `tree'` goes on from `tree`, and meets the neighbours of the topics that it adds. -/
structure Tree.Extends (g : Graph) (tree tree' : Tree) : Prop where
  topics : tree.topics ⊆ tree'.topics
  issues : tree.issues ⊆ tree'.issues
  onward : ∀ u ∈ tree'.topics, u ∉ tree.topics → ∀ v ∈ g.neighbours u, tree'.Meets g v

theorem Tree.Extends.refl (g : Graph) (tree : Tree) : tree.Extends g tree :=
  ⟨List.Subset.refl _, List.Subset.refl _, fun _ hu hnew => absurd hu hnew⟩

theorem Tree.Extends.meets (h : tree.Extends g tree') (hv : tree.Meets g v) : tree'.Meets g v :=
  hv.imp (fun hv => h.topics hv) (fun hv => h.issues hv)

theorem Tree.Extends.trans {tree'' : Tree} (h : tree.Extends g tree')
    (h' : tree'.Extends g tree'') : tree.Extends g tree'' where
  topics := List.Subset.trans h.topics h'.topics
  issues := List.Subset.trans h.issues h'.issues
  onward u hu hnew v hv := by
    by_cases hold : u ∈ tree'.topics
    · exact h'.meets (h.onward u hold hnew v hv)
    · exact h'.onward u hu hold v hv

/-- Steps that extend a tree and meet a topic, made one after another for some topics. -/
theorem extends_foldl {grow : Tree → TopicId → Tree}
    (hgrow : ∀ tree v, tree.Extends g (grow tree v) ∧ (grow tree v).Meets g v)
    (nexts : List TopicId) (tree : Tree) :
    tree.Extends g (nexts.foldl grow tree) ∧ ∀ v ∈ nexts, (nexts.foldl grow tree).Meets g v := by
  induction nexts generalizing tree with
  | nil => exact ⟨.refl g tree, by simp⟩
  | cons next nexts ih =>
    obtain ⟨hstep, hmeets⟩ := hgrow tree next
    obtain ⟨hrest, hmeetsRest⟩ := ih (grow tree next)
    refine ⟨hstep.trans hrest, fun v hv => ?_⟩
    obtain rfl | hv := List.mem_cons.mp hv
    · exact hrest.meets hmeets
    · exact hmeetsRest v hv

/-- Entering a topic and going on to its neighbours. -/
theorem extends_enter {grow : Tree → TopicId → Tree}
    (hgrow : ∀ tree v, tree.Extends g (grow tree v) ∧ (grow tree v).Meets g v) :
    let tree' := (g.neighbours topic).foldl grow { tree with topics := tree.topics ++ [topic] }
    tree.Extends g tree' ∧ topic ∈ tree'.topics := by
  obtain ⟨hextends, hmeets⟩ := extends_foldl hgrow (g.neighbours topic)
    { tree with topics := tree.topics ++ [topic] }
  refine ⟨⟨?_, hextends.issues, fun u hu hnew => ?_⟩, ?_⟩
  · exact List.Subset.trans (List.subset_append_left _ _) hextends.topics
  · by_cases heq : u = topic
    · rw [heq]
      exact hmeets
    · refine hextends.onward u hu ?_
      simpa [heq] using hnew
  · exact hextends.topics (List.mem_append_right _ (List.mem_singleton_self topic))

theorem extends_growTree (g : Graph) (budget : Nat) (tree : Tree) (topic : TopicId) :
    tree.Extends g (g.growTree budget tree topic) ∧
      (g.growTree budget tree topic).Meets g topic := by
  induction budget generalizing tree topic with
  | zero =>
    refine ⟨⟨List.Subset.refl _, List.subset_append_left _ _, fun _ hu hnew => absurd hu hnew⟩, ?_⟩
    exact .inr (List.mem_append_right _ (List.mem_singleton_self _))
  | succ budget ih =>
    by_cases htopic : topic ∈ tree.topics
    · rw [growTree_of_mem htopic]
      exact ⟨.refl g tree, .inl htopic⟩
    · rw [growTree_of_not_mem htopic]
      obtain ⟨hextends, hentered⟩ := extends_enter ih
      exact ⟨hextends, .inl hentered⟩

/-- Topics are listed once, and trails lead to them and to what is noted. -/
structure Tree.Rooted (g : Graph) (limit : Nat) (s : TopicId) (tree : Tree) : Prop where
  nodup : tree.topics.Nodup
  listed : ∀ v ∈ tree.topics, ∃ path i b, g.Trail s path i b v ∧ path.length ≤ limit
  noted : ∀ issue ∈ tree.issues, ∃ path i b v, g.Trail s path i b v ∧
    path.length = limit + 1 ∧ issue = .depthExceeded (g.topic v).name

/-- The path of the traversal is a trail, because it consists of topics that are listed. -/
theorem rooted_growTree {budget : Nat} {path : List TopicId} {i : Nat} {b : Bool}
    (hrooted : tree.Rooted g limit s) (htrail : g.Trail s path i b topic)
    (hpath : path ⊆ tree.topics) (hbudget : path.length + budget = limit + 1) :
    (g.growTree budget tree topic).Rooted g limit s := by
  induction budget generalizing tree topic path i b with
  | zero =>
    refine ⟨hrooted.nodup, hrooted.listed, fun issue hissue => ?_⟩
    obtain hissue | hissue := List.mem_append.mp hissue
    · exact hrooted.noted issue hissue
    · exact ⟨path, i, b, topic, htrail, hbudget, List.mem_singleton.mp hissue⟩
  | succ budget ih =>
    by_cases htopic : topic ∈ tree.topics
    · rwa [growTree_of_mem htopic]
    · rw [growTree_of_not_mem htopic]
      have hentered : Tree.Rooted g limit s { tree with topics := tree.topics ++ [topic] } := by
        refine ⟨hrooted.nodup.append (List.nodup_singleton topic) (by simpa using htopic), ?_,
          hrooted.noted⟩
        intro v hv
        obtain hv | hv := List.mem_append.mp hv
        · exact hrooted.listed v hv
        · obtain rfl := List.mem_singleton.mp hv
          exact ⟨path, i, b, htrail, by omega⟩
      have hpath' : topic :: path ⊆ tree.topics ++ [topic] :=
        List.cons_subset.mpr ⟨by simp, List.Subset.trans hpath (List.subset_append_left _ _)⟩
      have hbudget' : (topic :: path).length + budget = limit + 1 := by
        rw [List.length_cons]
        omega
      refine (List.foldlRecOn (motive := fun t => t.Rooted g limit s ∧ topic :: path ⊆ t.topics)
        (g.neighbours topic) (growTree g budget) ⟨hentered, hpath'⟩ ?_).1
      intro t ht next hnext
      obtain ⟨i', b', htrail'⟩ := htrail.neighbour (fun h => htopic (hpath h)) hnext
      exact ⟨ih ht.1 htrail' ht.2 hbudget',
        List.Subset.trans ht.2 (g.extends_growTree budget t next).1.topics⟩

theorem rooted_tree (g : Graph) (limit : Nat) (s : TopicId) : (g.tree limit s).Rooted g limit s :=
  rooted_growTree ⟨.nil, by simp, by simp⟩ .start (by simp) (Nat.zero_add _)

theorem meets_of_mem_tree (h : u ∈ (g.tree limit s).topics) (hv : v ∈ g.neighbours u) :
    (g.tree limit s).Meets g v :=
  (g.extends_growTree (limit + 1) ⟨[], []⟩ s).1.onward u h (by simp) v hv

theorem start_mem_tree (g : Graph) (limit : Nat) (s : TopicId) : s ∈ (g.tree limit s).topics := by
  rw [tree, growTree_of_not_mem (by simp)]
  exact (extends_enter (g.extends_growTree limit)).2

theorem inReach_of_mem_tree (h : v ∈ (g.tree limit s).topics) : g.InReach limit s v := by
  obtain ⟨path, i, b, htrail, hlength⟩ := (g.rooted_tree limit s).listed v h
  exact ⟨path.length, hlength, htrail.reaches⟩

/-- What is in reach is what the walk lists. -/
theorem inReach_iff : g.InReach limit s v ↔ ∃ tag, Visit.listed v tag ∈ g.visits limit s := by
  constructor
  · rintro ⟨n, hn, i, b, hroute⟩
    obtain ⟨path, i', htrail, hlength, _⟩ := hroute.exists_trail
    exact ⟨_, listed_mem_visits_of_trail htrail (Nat.le_trans hlength hn)⟩
  · rintro ⟨tag, hlisted⟩
    obtain ⟨n, i, b, hroute, hn, _⟩ := tagged_of_listed_mem_visits hlisted
    exact ⟨n, hn, i, b, hroute⟩

/-- What the tree notes, the walk notes too. -/
theorem issues_tree_subset (g : Graph) (limit : Nat) (s : TopicId) :
    (g.tree limit s).issues ⊆ (g.population limit s).issues := by
  intro issue hissue
  obtain ⟨path, i, b, v, htrail, hlength, rfl⟩ := (g.rooted_tree limit s).noted issue hissue
  exact mem_issues_population.mpr (exceeded_mem_visits_of_trail htrail hlength)

/-- As long as nothing in reach is noted, each edge of a listed topic leads on. -/
theorem mem_tree_of_inReach (hnotes : ∀ v, g.InReach limit s v → ¬ (g.tree limit s).Notes g v)
    (h : g.InReach limit s v) : v ∈ (g.tree limit s).topics := by
  obtain ⟨n, hn, i, b, hroute⟩ := h
  induction hroute with
  | start => exact g.start_mem_tree limit s
  | includes hroute hv ih =>
    have hmeets := meets_of_mem_tree (ih (by omega)) (List.mem_append_left _ hv)
    exact hmeets.resolve_right (hnotes _ ⟨_, hn, _, _, hroute.includes hv⟩)
  | inherits hroute hv ih =>
    have hmeets := meets_of_mem_tree (ih (by omega)) (List.mem_append_right _ hv)
    exact hmeets.resolve_right (hnotes _ ⟨_, hn, _, _, hroute.inherits hv⟩)

/-- The tree lists topics once, all of them in reach and so seen by the walk, and notes ends of
routes with one edge too many. It lists all topics in reach and notes none of them exactly when it
notes no topic in reach, and this is so when the walk is not cut for depth. -/
theorem tree_exact_iff (g : Graph) (limit : Nat) (s : TopicId) :
    (g.tree limit s).topics.Nodup ∧
    (∀ v, g.InReach limit s v ↔ ∃ tag, Visit.listed v tag ∈ g.visits limit s) ∧
    (∀ v ∈ (g.tree limit s).topics, g.InReach limit s v) ∧
    (∀ issue ∈ (g.tree limit s).issues, ∃ v, g.Reaches (limit + 1) s v ∧
      issue = .depthExceeded (g.topic v).name) ∧
    (((∀ v, v ∈ (g.tree limit s).topics ↔ g.InReach limit s v) ∧
        ∀ v ∈ (g.tree limit s).topics, ¬ (g.tree limit s).Notes g v) ↔
      ∀ v, g.InReach limit s v → ¬ (g.tree limit s).Notes g v) ∧
    ((g.population limit s).Uncut → (g.tree limit s).issues = []) := by
  have hrooted := g.rooted_tree limit s
  refine ⟨hrooted.nodup, fun v => inReach_iff, fun v => inReach_of_mem_tree, ?_, ?_, ?_⟩
  · intro issue hissue
    obtain ⟨path, i, b, v, htrail, hlength, heq⟩ := hrooted.noted issue hissue
    exact ⟨v, hlength ▸ htrail.reaches, heq⟩
  · constructor
    · rintro ⟨hexact, hnotes⟩ v hv
      exact hnotes v ((hexact v).mpr hv)
    · intro hnotes
      exact ⟨fun v => ⟨inReach_of_mem_tree, mem_tree_of_inReach hnotes⟩,
        fun v hv => hnotes v (inReach_of_mem_tree hv)⟩
  · intro huncut
    refine List.eq_nil_iff_forall_not_mem.mpr fun issue hissue => ?_
    obtain ⟨path, i, b, v, _, _, rfl⟩ := hrooted.noted issue hissue
    exact huncut _ (g.issues_tree_subset limit s hissue)

/-- With two edges allowed, a long route enters the topic `c` with none left, so that `d` is missing
although a shorter route leads there. With one edge allowed, `c` is both noted and listed. -/
theorem tree_misses_short_route :
    let edges := [.addEdge .includes "a" "b", .addEdge .includes "b" "c",
      .addEdge .includes "c" "d", .addEdge .includes "a" "c"]
    let b := (Bot.new ⟨2, 2⟩).run edges
    (b.graph.find? "a" = some 0 ∧ b.graph.find? "d" = some 3 ∧ b.graph.InReach 2 0 3 ∧
      b.treeOf? "a" = some (["a", "b", "c"], [.depthExceeded "d"])) ∧
    ((Bot.new ⟨1, 2⟩).run edges).treeOf? "a" =
      some (["a", "b", "c"], [.depthExceeded "c", .depthExceeded "d"]) := by
  intro edges b
  have hreach : b.graph.InReach 2 0 3 := inReach_iff.mpr ⟨0, by decide +kernel⟩
  exact ⟨⟨by decide +kernel, by decide +kernel, hreach, by decide +kernel⟩, by decide +kernel⟩

end Parley.Graph
