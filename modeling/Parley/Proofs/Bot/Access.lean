import Parley.Proofs.Bot.Numbers
import Parley.Proofs.Topic.Owners
import Parley.Proofs.Topic.Tree

/-!
# Access by number

A graph gives an empty topic or trigger for a number out of range, so that no definition on graphs
can fail. Here those that go by numbers are written once more, and fail wherever a number out of
range is read or written. In a well formed graph they do not fail, and they come to the same.
-/
namespace Parley.Graph.Checked

section Lists
variable {α β : Type}

theorem mapM_eq_some {f : α → Option β} {f' : α → β} {items : List α}
    (h : ∀ a ∈ items, f a = some (f' a)) : items.mapM f = some (items.map f') := by
  induction items with
  | nil => rfl
  | cons a items ih =>
    rw [List.mapM_cons, h a List.mem_cons_self, ih fun b hb => h b (List.mem_cons_of_mem a hb)]
    rfl

theorem findM?_eq_some {p : α → Option Bool} {p' : α → Bool} {items : List α}
    (h : ∀ a ∈ items, p a = some (p' a)) : items.findM? p = some (items.find? p') := by
  induction items with
  | nil => rfl
  | cons a items ih =>
    rw [List.findM?, h a List.mem_cons_self, ih fun b hb => h b (List.mem_cons_of_mem a hb),
      List.find?_cons]
    cases p' a <;> rfl

theorem findSomeM?_eq_some {f : α → Option (Option β)} {f' : α → Option β} {items : List α}
    (h : ∀ a ∈ items, f a = some (f' a)) : items.findSomeM? f = some (items.findSome? f') := by
  induction items with
  | nil => rfl
  | cons a items ih =>
    rw [List.findSomeM?, h a List.mem_cons_self, ih fun b hb => h b (List.mem_cons_of_mem a hb),
      List.findSome?_cons]
    cases f' a <;> rfl

/-- A fold whose steps keep what they need to succeed succeeds. -/
theorem foldlM_eq_some {P : β → Prop} {f : β → α → Option β} {f' : β → α → β} {items : List α}
    {b : β} (hb : P b) (h : ∀ b, P b → ∀ a ∈ items, f b a = some (f' b a) ∧ P (f' b a)) :
    items.foldlM f b = some (items.foldl f' b) := by
  induction items generalizing b with
  | nil => rfl
  | cons a items ih =>
    obtain ⟨hstep, hb'⟩ := h b hb a List.mem_cons_self
    rw [List.foldlM_cons, hstep, List.foldl_cons]
    exact ih hb' fun b hb c hc => h b hb c (List.mem_cons_of_mem a hc)

end Lists

def topic (g : Graph) (id : TopicId) : Option Topic := g.topics[id]?

def trigger (g : Graph) (id : TriggerId) : Option Trigger := g.triggers[id]?

def names (g : Graph) (ids : List TopicId) : Option (List String) :=
  ids.mapM fun id => return (← topic g id).name

/-- The triggers of a list, each with its number. -/
def triggers (g : Graph) (ids : List TriggerId) : Option (List (TriggerId × Trigger)) :=
  ids.mapM fun id => return (id, ← trigger g id)

/-- The entries of one kind that a visit yields. -/
def entries (g : Graph) (kind : Kind) : Visit → Option (List Entry)
  | .listed id tag => do
    let owned ← triggers g (← topic g id).triggers
    return (owned.filter (·.2.kind == kind)).map fun owned => ⟨owned.1, tag⟩
  | .met _ => return []

def walk (g : Graph) : (budget : Nat) → (path : List TopicId) → (inheritance : Nat) →
    (inherited : Bool) → (id : TopicId) → Option (List Visit)
  | 0, _, _, _, id => return [.met (.depthExceeded (← topic g id).name)]
  | budget + 1, path, inheritance, inherited, id => do
    let node ← topic g id
    let own := Visit.listed id (if !node.inherits.isEmpty || inherited then inheritance else 0)
    if path.contains id then return [.met (.cycle node.name), own]
    else
      let included ← node.includes.mapM (walk g budget (id :: path) inheritance false)
      let inherited ← node.inherits.mapM (walk g budget (id :: path) (inheritance + 1) true)
      return included.flatten ++ inherited.flatten ++ [own]

def population (g : Graph) (limit : Nat) (id : TopicId) : Option Population := do
  let visits ← walk g (limit + 1) [] 0 false id
  let plain ← visits.mapM (entries g .plain)
  let previous ← visits.mapM (entries g .previous)
  return ⟨plain.flatten, previous.flatten, visits.filterMap Visit.issue?⟩

/-- The entries with their ranks, each read off a trigger. -/
def ranked (g : Graph) (kind : Kind) (entries : List Entry) : Option (List (Rank × Entry)) :=
  entries.mapM fun entry => return ((← trigger g entry.trigger).rank kind entry, entry)

def sortEntries (g : Graph) (kind : Kind) (entries : List Entry) : Option (List Entry) := do
  let ranked ← ranked g kind entries
  return (ranked.mergeSort fun a b => a.1.le b.1).map Prod.snd

def list (g : Graph) (limit : Nat) (id : TopicId) : Option (Listing × TopicReport) := do
  let population ← population g limit id
  let plain := Entry.collapse population.plain
  let previous := Entry.collapse population.previous
  let listing : Listing :=
    ⟨← sortEntries g .plain plain.entries, ← sortEntries g .previous previous.entries⟩
  return (listing,
    { topic := (← topic g id).name
      plain := listing.plain.length
      previous := listing.previous.length
      duplicates := plain.dropped + previous.dropped
      issues := population.issues })

/-- A topic is written only where it could be read. -/
def setListing (g : Graph) (listed : TopicId × Listing) : Option Graph := do
  let _ ← topic g listed.1
  return g.setListing listed.1 listed.2

def setListings (g : Graph) (listings : List (TopicId × Listing)) : Option Graph :=
  listings.foldlM setListing g

def sort (g : Graph) (limit : Nat) : Option (Graph × SortReport) := do
  let results ← g.topicIds.mapM fun id => return (id, ← list g limit id)
  let graph ← setListings g (results.map fun (id, result) => (id, result.1))
  return (graph, results.map fun (_, result) => result.2)

def owned? (g : Graph) (id : TopicId) (text : String) : Option (Option TriggerId) := do
  (← topic g id).triggers.findM? fun id => return (← trigger g id).pattern.text == text

def ownerFrom (g : Graph) (text : String) : (budget : Nat) → (path : List TopicId) →
    (id : TopicId) → Option (Option TriggerId)
  | 0, _, id => do
    let _ ← topic g id
    return none
  | budget + 1, path, id => do
    let node ← topic g id
    if path.contains id then return none
    else
      (node.inherits ++ node.includes).findSomeM? fun next => do
        match ← owned? g next text with
        | some id => return some id
        | none => ownerFrom g text budget (id :: path) next

def owner? (g : Graph) (limit : Nat) (id : TopicId) (text : String) : Option (Option TriggerId) :=
  ownerFrom g text (limit + 1) [] id

def growTree (g : Graph) : (budget : Nat) → (tree : Tree) → (id : TopicId) → Option Tree
  | 0, tree, id =>
    return { tree with issues := tree.issues ++ [.depthExceeded (← topic g id).name] }
  | budget + 1, tree, id => do
    let node ← topic g id
    if tree.topics.contains id then return tree
    else
      (node.includes ++ node.inherits).foldlM (growTree g budget)
        { tree with topics := tree.topics ++ [id] }

def tree (g : Graph) (limit : Nat) (id : TopicId) : Option Tree :=
  growTree g (limit + 1) ⟨[], []⟩ id

def findTrigger? (g : Graph) (id : TopicId) (identity : String × Option String) :
    Option (Option TriggerId) := do
  (← topic g id).triggers.findM? fun id => return (← trigger g id).identity == identity

/-- A topic or a trigger is written only where it could be read. -/
def addTrigger (g : Graph) (t : Trigger) : Option (Graph × TriggerId) := do
  match ← findTrigger? g t.topic t.identity with
  | some id =>
    let _ ← trigger g id
    return (g.replace id t, id)
  | none =>
    let _ ← topic g t.topic
    return (g.append t, g.triggers.size)

def addEdge (g : Graph) (relation : Relation) (id other : TopicId) : Option Graph := do
  let node ← topic g id
  if (node.edges relation).contains other then return g
  else
    return (g.modifyTopic id (·.addEdge relation other)
      fun t => t.name_addEdge relation other).unsort

section Linked
variable {g : Graph}

theorem topic_eq {id : TopicId} (hid : id < g.topics.size) : topic g id = some (g.topic id) := by
  simp [topic, Graph.topic, hid]

theorem trigger_eq {id : TriggerId} (hid : id < g.triggers.size) :
    trigger g id = some (g.trigger id) := by
  simp [trigger, Graph.trigger, hid]

theorem names_eq {ids : List TopicId} (h : ∀ id ∈ ids, id < g.topics.size) :
    names g ids = some (g.names ids) :=
  mapM_eq_some fun id hid => by rw [topic_eq (h id hid)]; rfl

theorem triggers_eq {ids : List TriggerId} (h : ∀ id ∈ ids, id < g.triggers.size) :
    triggers g ids = some (ids.map fun id => (id, g.trigger id)) :=
  mapM_eq_some fun id hid => by rw [trigger_eq (h id hid)]; rfl

/-- Routes lead to topics that exist. -/
theorem lt_of_route (h : g.Linked) {s v : TopicId} {n i : Nat} {b : Bool} (hs : s < g.topics.size)
    (hroute : g.Route s n i b v) : v < g.topics.size := by
  induction hroute with
  | start => exact hs
  | includes _ hv _ => exact h.edges_lt .includes _ _ hv
  | inherits _ hv _ => exact h.edges_lt .inherits _ _ hv

theorem walk_eq (h : g.Linked) {budget : Nat} {path : List TopicId} {inheritance : Nat}
    {inherited : Bool} {id : TopicId} (hid : id < g.topics.size) :
    walk g budget path inheritance inherited id =
      some (g.walk budget path inheritance inherited id) := by
  induction budget generalizing path inheritance inherited id with
  | zero => rw [walk, topic_eq hid]; rfl
  | succ budget ih =>
    have hincluded : (g.topic id).includes.mapM (walk g budget (id :: path) inheritance false) =
        some ((g.topic id).includes.map (g.walk budget (id :: path) inheritance false)) :=
      mapM_eq_some fun v hv => ih (h.edges_lt .includes id v hv)
    have hinherited :
        (g.topic id).inherits.mapM (walk g budget (id :: path) (inheritance + 1) true) =
          some ((g.topic id).inherits.map (g.walk budget (id :: path) (inheritance + 1) true)) :=
      mapM_eq_some fun v hv => ih (h.edges_lt .inherits id v hv)
    rw [walk, Graph.walk, topic_eq hid]
    by_cases hpath : path.contains id
    · simp only [Option.bind_eq_bind, Option.bind_some, hpath, if_true]
      rfl
    · simp only [Option.bind_eq_bind, Option.bind_some, hpath, hincluded, hinherited,
        List.flatMap_def]
      rfl

theorem entries_eq (hstored : g.Stored) (kind : Kind) {visit : Visit}
    (hvisit : ∀ id tag, visit = .listed id tag → id < g.topics.size) :
    entries g kind visit = some (visit.entries g kind) := by
  cases visit with
  | met issue => rfl
  | listed id tag =>
    rw [entries, topic_eq (hvisit id tag rfl)]
    simp only [Option.bind_eq_bind, Option.bind_some, triggers_eq (hstored id)]
    rw [Visit.entries, List.filter_map, List.map_map]
    rfl

theorem population_eq (h : g.Linked) (hstored : g.Stored) (limit : Nat) {id : TopicId}
    (hid : id < g.topics.size) : population g limit id = some (g.population limit id) := by
  have hentries (kind : Kind) : (g.visits limit id).mapM (entries g kind) =
      some ((g.visits limit id).map (Visit.entries g kind)) :=
    mapM_eq_some fun visit hvisit => entries_eq hstored kind fun v tag heq => by
      obtain ⟨n, i, b, hroute, _⟩ := tagged_of_listed_mem_visits (heq ▸ hvisit)
      exact lt_of_route h hid hroute
  rw [population, walk_eq h hid]
  simp only [Option.bind_eq_bind, Option.bind_some]
  rw [← visits, hentries, hentries]
  simp only [Option.bind_some, Graph.population, populationOf, List.flatMap_def]
  rfl

theorem sortEntries_eq {entries : List Entry}
    (h : ∀ entry ∈ entries, entry.trigger < g.triggers.size) (kind : Kind) :
    sortEntries g kind entries = some (g.sortEntries kind entries) := by
  have hranked : ranked g kind entries =
      some (entries.map fun entry => (g.rank kind entry, entry)) :=
    mapM_eq_some fun entry hentry => by rw [trigger_eq (h entry hentry)]; rfl
  rw [sortEntries, hranked]
  rfl

theorem list_eq (h : g.Linked) (hstored : g.Stored) (limit : Nat) {id : TopicId}
    (hid : id < g.topics.size) : list g limit id = some (g.list limit id) := by
  have hsort (kind : Kind) : sortEntries g kind (g.visible limit kind id) =
      some (g.sortEntries kind (g.visible limit kind id)) :=
    sortEntries_eq (fun entry hentry =>
      hstored.lt_of_mem_population ((Entry.mem_distinct_iff _ _).mp hentry).mem) kind
  have hplain := hsort .plain
  have hprevious := hsort .previous
  simp only [visible, Population.entries] at hplain hprevious
  rw [list, population_eq h hstored limit hid]
  simp only [Option.bind_eq_bind, Option.bind_some, hplain, hprevious, topic_eq hid]
  rfl

theorem setListings_eq {listings : List (TopicId × Listing)}
    (h : ∀ listed ∈ listings, listed.1 < g.topics.size) :
    setListings g listings = some (g.setListings listings) := by
  refine foldlM_eq_some (P := fun g' => g'.topics.size = g.topics.size) rfl ?_
  intro g' hsize listed hlisted
  refine ⟨?_, (size_topics_setListing ..).trans hsize⟩
  rw [setListing, topic_eq (hsize ▸ h listed hlisted)]
  rfl

theorem sort_eq (h : g.Linked) (hstored : g.Stored) (limit : Nat) :
    sort g limit = some (g.sort limit) := by
  have hresults : (g.topicIds.mapM fun id => return (id, ← list g limit id)) =
      some (g.topicIds.map fun id => (id, g.list limit id)) :=
    mapM_eq_some fun id hid => by rw [list_eq h hstored limit (List.mem_range.mp hid)]; rfl
  have hlistings : ∀ listed ∈ (g.topicIds.map fun id => (id, g.list limit id)).map
      (fun (id, result) => (id, result.1)), listed.1 < g.topics.size := by
    intro listed hlisted
    obtain ⟨_, hmem, rfl⟩ := List.mem_map.mp hlisted
    obtain ⟨id, hid, rfl⟩ := List.mem_map.mp hmem
    exact List.mem_range.mp hid
  rw [sort, hresults]
  simp only [Option.bind_eq_bind, Option.bind_some, setListings_eq hlistings]
  rfl

theorem owned?_eq (hstored : g.Stored) {id : TopicId} (hid : id < g.topics.size) (text : String) :
    owned? g id text = some (g.owned? id text) := by
  rw [owned?, topic_eq hid]
  exact findM?_eq_some fun id' hid' => by rw [trigger_eq (hstored id id' hid')]; rfl

theorem ownerFrom_eq (h : g.Linked) (hstored : g.Stored) (text : String) {budget : Nat}
    {path : List TopicId} {id : TopicId} (hid : id < g.topics.size) :
    ownerFrom g text budget path id = some (g.ownerFrom text budget path id) := by
  induction budget generalizing path id with
  | zero => rw [ownerFrom, topic_eq hid]; rfl
  | succ budget ih =>
    rw [ownerFrom, Graph.ownerFrom, topic_eq hid]
    by_cases hpath : path.contains id
    · simp only [Option.bind_eq_bind, Option.bind_some, hpath, if_true]
      rfl
    · simp only [Option.bind_eq_bind, Option.bind_some, hpath]
      refine findSomeM?_eq_some fun next hnext => ?_
      have hlt : next < g.topics.size := by
        obtain hinherits | hincludes := List.mem_append.mp hnext
        · exact h.edges_lt .inherits id next hinherits
        · exact h.edges_lt .includes id next hincludes
      rw [owned?_eq hstored hlt]
      cases howned : g.owned? next text with
      | none => exact ih hlt
      | some found => rfl

theorem owner?_eq (h : g.Linked) (hstored : g.Stored) (limit : Nat) {id : TopicId}
    (hid : id < g.topics.size) (text : String) :
    owner? g limit id text = some (g.owner? limit id text) := ownerFrom_eq h hstored text hid

theorem lt_of_owner? (hstored : g.Stored) {limit : Nat} {id : TopicId} {text : String}
    {found : TriggerId} (hfound : g.owner? limit id text = some found) :
    found < g.triggers.size := by
  obtain ⟨v, _, howned⟩ := owner?_eq_some_iff.mp hfound
  exact hstored v found (of_owned?_eq_some howned).1

theorem growTree_eq (h : g.Linked) {budget : Nat} (tree : Tree) {id : TopicId}
    (hid : id < g.topics.size) : growTree g budget tree id = some (g.growTree budget tree id) := by
  induction budget generalizing tree id with
  | zero => rw [growTree, topic_eq hid]; rfl
  | succ budget ih =>
    rw [growTree, Graph.growTree, topic_eq hid]
    by_cases htree : tree.topics.contains id
    · simp only [Option.bind_eq_bind, Option.bind_some, htree, if_true]
      rfl
    · simp only [Option.bind_eq_bind, Option.bind_some, htree]
      refine foldlM_eq_some (P := fun _ => True) trivial fun tree _ next hnext => ⟨?_, trivial⟩
      obtain hincludes | hinherits := List.mem_append.mp hnext
      · exact ih tree (h.edges_lt .includes id next hincludes)
      · exact ih tree (h.edges_lt .inherits id next hinherits)

theorem tree_eq (h : g.Linked) (limit : Nat) {id : TopicId} (hid : id < g.topics.size) :
    tree g limit id = some (g.tree limit id) := growTree_eq h _ hid

/-- The tree of a topic holds topics that exist. -/
theorem lt_of_mem_tree (h : g.Linked) {limit : Nat} {id v : TopicId} (hid : id < g.topics.size)
    (hv : v ∈ (g.tree limit id).topics) : v < g.topics.size := by
  obtain ⟨n, _, i, inherited, hroute⟩ := inReach_of_mem_tree hv
  exact lt_of_route h hid hroute

theorem findTrigger?_eq (hstored : g.Stored) {id : TopicId} (hid : id < g.topics.size)
    (identity : String × Option String) :
    findTrigger? g id identity = some (g.findTrigger? id identity) := by
  rw [findTrigger?, topic_eq hid]
  exact findM?_eq_some fun id' hid' => by rw [trigger_eq (hstored id id' hid')]; rfl

theorem addTrigger_eq (hstored : g.Stored) {t : Trigger} (ht : t.topic < g.topics.size) :
    addTrigger g t = some (g.addTrigger t) := by
  rw [addTrigger, findTrigger?_eq hstored ht]
  cases hfound : g.findTrigger? t.topic t.identity with
  | some id =>
    rw [Graph.addTrigger, hfound]
    simp only [Option.bind_eq_bind, Option.bind_some,
      trigger_eq (hstored.lt_of_findTrigger? hfound)]
    rfl
  | none =>
    rw [Graph.addTrigger, hfound]
    simp only [Option.bind_eq_bind, Option.bind_some, topic_eq ht]
    rfl

theorem addEdge_eq (relation : Relation) {id : TopicId} (hid : id < g.topics.size)
    (other : TopicId) : addEdge g relation id other = some (g.addEdge relation id other) := by
  rw [addEdge, Graph.addEdge, topic_eq hid]
  simp only [Option.bind_eq_bind, Option.bind_some]
  split <;> rfl

end Linked

end Parley.Graph.Checked
