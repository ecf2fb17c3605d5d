import Parley.Proofs.Topic.Tree

/-!
# The order of the tree

A depth-first traversal works off an agenda. It passes over a topic that is listed already, and it
lists any other one and puts the neighbours of that topic, the included ones first, at the front of
the agenda. Such a traversal needs no limit, and it has one result. A tree that notes nothing is
this result: it begins with its topic and holds all topics that edges lead to. With as many edges
allowed as there are topics, a tree has nothing to note.
-/
namespace Parley.Graph

variable {g : Graph} {limit : Nat} {s v : TopicId} {tree : Tree}
  {listed agenda order : List TopicId}

/-- Working off an agenda depth first turns the topics listed so far into `order`. -/
inductive Traverses (g : Graph) : (listed agenda order : List TopicId) → Prop
  | done {listed : List TopicId} : Traverses g listed [] listed
  | again {listed agenda order : List TopicId} {v : TopicId} :
    v ∈ listed → Traverses g listed agenda order → Traverses g listed (v :: agenda) order
  | enter {listed agenda order : List TopicId} {v : TopicId} :
    v ∉ listed → Traverses g (listed ++ [v]) (g.neighbours v ++ agenda) order →
      Traverses g listed (v :: agenda) order

/-- A traversal has one result. -/
theorem Traverses.unique {order' : List TopicId} (h : g.Traverses listed agenda order)
    (h' : g.Traverses listed agenda order') : order' = order := by
  induction h with
  | done =>
    cases h'
    rfl
  | again hv _ ih =>
    cases h' with
    | again _ h' => exact ih h'
    | enter hnew _ => exact absurd hv hnew
  | enter hv _ ih =>
    cases h' with
    | again hold _ => exact absurd hold hv
    | enter _ h' => exact ih h'

theorem prefix_foldl {grow : Tree → TopicId → Tree}
    (hgrow : ∀ tree v, tree.topics <+: (grow tree v).topics) (nexts : List TopicId) (tree : Tree) :
    tree.topics <+: (nexts.foldl grow tree).topics :=
  List.foldlRecOn (motive := fun t : Tree => tree.topics <+: t.topics) nexts grow
    (List.prefix_refl _) fun t ht next _ => ht.trans (hgrow t next)

/-- What is listed stays where it is. -/
theorem prefix_growTree (g : Graph) (budget : Nat) (tree : Tree) (v : TopicId) :
    tree.topics <+: (g.growTree budget tree v).topics := by
  induction budget generalizing tree v with
  | zero => exact List.prefix_refl _
  | succ budget ih =>
    by_cases hv : v ∈ tree.topics
    · exact (growTree_of_mem hv).symm ▸ List.prefix_refl _
    · rw [growTree_of_not_mem hv]
      have hentered := prefix_foldl ih (g.neighbours v)
        { tree with topics := tree.topics ++ [v] }
      exact (List.prefix_append _ _).trans hentered

/-- Without a note, growing a tree at some topics in turn works them off the agenda. -/
theorem traverses_foldl {grow : Tree → TopicId → Tree}
    (hissues : ∀ tree v, tree.issues ⊆ (grow tree v).issues)
    (hgrow : ∀ tree v agenda order, (grow tree v).issues = [] →
      g.Traverses (grow tree v).topics agenda order → g.Traverses tree.topics (v :: agenda) order)
    {nexts : List TopicId} {tree : Tree} (hnone : (nexts.foldl grow tree).issues = [])
    (hrest : g.Traverses (nexts.foldl grow tree).topics agenda order) :
    g.Traverses tree.topics (nexts ++ agenda) order := by
  induction nexts generalizing tree with
  | nil => exact hrest
  | cons next nexts ih =>
    have hlater : (grow tree next).issues ⊆ (nexts.foldl grow (grow tree next)).issues :=
      List.foldlRecOn (motive := fun t : Tree => (grow tree next).issues ⊆ t.issues) nexts grow
        (List.Subset.refl _) fun t ht v _ => List.Subset.trans ht (hissues t v)
    have hnext : (grow tree next).issues = [] := List.subset_nil.mp (hnone ▸ hlater)
    exact hgrow tree next _ _ hnext (ih hnone hrest)

theorem traverses_growTree {budget : Nat} (hnone : (g.growTree budget tree v).issues = [])
    (hrest : g.Traverses (g.growTree budget tree v).topics agenda order) :
    g.Traverses tree.topics (v :: agenda) order := by
  induction budget generalizing tree v agenda order with
  | zero => simp [growTree] at hnone
  | succ budget ih =>
    by_cases hv : v ∈ tree.topics
    · rw [growTree_of_mem hv] at hrest
      exact .again hv hrest
    · rw [growTree_of_not_mem hv] at hnone hrest
      refine .enter hv (traverses_foldl (fun t next => ?_) (fun t next _ _ => ih) hnone hrest)
      exact (g.extends_growTree budget t next).1.issues

theorem traverses_tree (hnone : (g.tree limit s).issues = []) :
    g.Traverses [] [s] (g.tree limit s).topics :=
  traverses_growTree hnone .done

theorem head?_tree (g : Graph) (limit : Nat) (s : TopicId) :
    (g.tree limit s).topics.head? = some s := by
  rw [tree, growTree_of_not_mem List.not_mem_nil]
  obtain ⟨rest, hrest⟩ := prefix_foldl (g.prefix_growTree limit) (g.neighbours s) ⟨[s], []⟩
  exact (congrArg List.head? hrest).symm

/-- A tree notes nothing but excess of depth. -/
theorem issues_tree_eq_nil_iff :
    (g.tree limit s).issues = [] ↔ ∀ name, .depthExceeded name ∉ (g.tree limit s).issues := by
  rw [List.eq_nil_iff_forall_not_mem]
  constructor
  · intro h name
    exact h _
  · intro h issue hissue
    obtain ⟨path, i, b, v, _, _, rfl⟩ := (g.rooted_tree limit s).noted issue hissue
    exact h _ hissue

/-- The path of a note would be a trail through more topics than there are. -/
theorem issues_tree_of_size_le (hsize : g.topics.size ≤ limit) : (g.tree limit s).issues = [] := by
  refine List.eq_nil_iff_forall_not_mem.mpr fun issue hissue => ?_
  obtain ⟨path, i, b, v, htrail, hlength, _⟩ := (g.rooted_tree limit s).noted issue hissue
  have hle := htrail.length_le_size
  omega

/-- Each edge of a listed topic leads to a listed one, so no route leads out of the tree. -/
theorem mem_tree_of_reaches (hnone : (g.tree limit s).issues = []) {n : Nat}
    (h : g.Reaches n s v) : v ∈ (g.tree limit s).topics := by
  have hnotes (v : TopicId) : ¬ (g.tree limit s).Notes g v := by
    rw [Tree.Notes, hnone]
    exact List.not_mem_nil
  obtain ⟨i, b, hroute⟩ := h
  induction hroute with
  | start => exact g.start_mem_tree limit s
  | includes _ hv ih =>
    exact (meets_of_mem_tree ih (List.mem_append_left _ hv)).resolve_right (hnotes _)
  | inherits _ hv ih =>
    exact (meets_of_mem_tree ih (List.mem_append_right _ hv)).resolve_right (hnotes _)

/-- The tree begins with its topic and lists topics once, all of them within the limit. If it notes
no excess of depth, it lists all topics that any number of edges lead to, and it is the result of
the depth-first traversal that has no limit. With as many edges allowed as there are topics it notes
nothing. -/
theorem tree_is_preorder (g : Graph) (limit : Nat) (s : TopicId) :
    let tree := g.tree limit s
    tree.topics.head? = some s ∧ tree.topics.Nodup ∧
    (∀ v ∈ tree.topics, g.InReach limit s v) ∧
    ((∀ name, .depthExceeded name ∉ tree.issues) →
      (∀ v, v ∈ tree.topics ↔ ∃ n, g.Reaches n s v) ∧
      ∀ order, g.Traverses [] [s] order ↔ order = tree.topics) ∧
    (g.topics.size ≤ limit → tree.issues = []) := by
  refine ⟨g.head?_tree limit s, (g.rooted_tree limit s).nodup, fun v => inReach_of_mem_tree,
    fun hexcess => ?_, issues_tree_of_size_le⟩
  have hnone := issues_tree_eq_nil_iff.mpr hexcess
  refine ⟨fun v => ⟨fun hv => ?_, fun ⟨n, hreach⟩ => mem_tree_of_reaches hnone hreach⟩,
    fun order => ⟨(traverses_tree hnone).unique, ?_⟩⟩
  · obtain ⟨n, _, hreach⟩ := inReach_of_mem_tree hv
    exact ⟨n, hreach⟩
  · rintro rfl
    exact traverses_tree hnone

/-- The topic `c` is inherited from two topics, one of which it includes itself. It comes behind all
that the included topic `b` leads to. -/
theorem tree_is_preorder_on_cycle :
    let topics := (((Graph.empty.ensure "a").ensure "b").ensure "c").ensure "d"
    let g := ((((topics.addInclude 0 1).addInherit 0 2).addInclude 1 3).addInherit 1 2).addInclude
      2 1
    let tree := g.tree 4 0
    g.topics.size ≤ 4 ∧ tree.topics = [0, 1, 3, 2] ∧ tree.issues = [] ∧
      g.Traverses [] [0] [0, 1, 3, 2] ∧ (∀ v, v ∈ [0, 1, 3, 2] ↔ ∃ n, g.Reaches n 0 v) := by
  intro topics g tree
  have hsize : g.topics.size ≤ 4 := by decide +kernel
  have htopics : tree.topics = [0, 1, 3, 2] := by decide +kernel
  obtain ⟨_, _, _, hexact, hlarge⟩ := tree_is_preorder g 4 0
  have hissues : tree.issues = [] := hlarge hsize
  obtain ⟨hmem, horder⟩ := hexact (issues_tree_eq_nil_iff.mp hissues)
  refine ⟨hsize, htopics, hissues, (horder _).mpr htopics.symm, fun v => ?_⟩
  rw [← htopics]
  exact hmem v

end Parley.Graph
