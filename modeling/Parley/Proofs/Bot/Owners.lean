import Parley.Proofs.Bot.Numbers
import Parley.Proofs.Topic.Owners

/-!
# The owner of a pattern

The search for the owner of a pattern looks into a topic before it counts the edge to it and
before it compares the topic with its path. So it follows one edge more than the walk that
collects what a topic sees, and it can come back to the topic that it began with. The owner is
seen exactly if it is within the limit. The first topic itself is found exactly if the search
comes back to it before it has looked into any other owner.
-/
namespace Parley

namespace Graph

variable {g : Graph} {limit : Nat} {s v : TopicId} {text : String}

/-- Among what `s` sees is a trigger of the topic `v` whose pattern has this text. -/
def Sees (g : Graph) (limit : Nat) (s v : TopicId) (text : String) : Prop :=
  ∃ kind, ∃ entry ∈ (g.population limit s).entries kind,
    (g.trigger entry.trigger).topic = v ∧ (g.trigger entry.trigger).pattern.text = text

theorem Filed.sees_iff (h : g.Filed) :
    g.Sees limit s v text ↔ g.InReach limit s v ∧ g.Owns v text := by
  constructor
  · intro hsees
    obtain ⟨kind, entry, hentry, htopic, htext⟩ := hsees
    obtain ⟨u, hid, _, hvisit⟩ := mem_entries_populationOf.mp hentry
    have hu : u = v := (h.mem_iff.mp hid).2.symm.trans htopic
    subst hu
    exact ⟨inReach_iff.mpr ⟨entry.depth, hvisit⟩, entry.trigger, hid, htext⟩
  · intro hreach
    obtain ⟨hreach, id, hid, htext⟩ := hreach
    obtain ⟨tag, hvisit⟩ := inReach_iff.mp hreach
    have hentry : ⟨id, tag⟩ ∈ (g.population limit s).entries (g.trigger id).kind :=
      mem_entries_populationOf.mpr ⟨v, hid, rfl, hvisit⟩
    exact ⟨_, ⟨id, tag⟩, hentry, (h.mem_iff.mp hid).2, htext⟩

theorem Filed.lt_size_of_owns (h : g.Filed) (howns : g.Owns v text) : v < g.topics.size := by
  obtain ⟨trigger, htrigger, _⟩ := howns
  obtain ⟨hlt, rfl⟩ := h.mem_iff.mp htrigger
  exact h.topic_lt trigger hlt

theorem InSearch.inReach (h : g.InSearch limit s v) : g.InReach (limit + 1) s v := by
  obtain ⟨n, hn, hreach⟩ := h
  exact ⟨n + 1, Nat.succ_le_succ hn, hreach⟩

/-- Where the walk is not cut for depth, all that edges lead to is within the limit. -/
theorem InSearch.inReach_of_uncut (h : g.InSearch limit s v)
    (huncut : (g.population limit s).Uncut) : g.InReach limit s v := by
  obtain ⟨n, _, i, b, hroute⟩ := h
  obtain ⟨path, i', htrail, _⟩ := hroute.exists_trail
  have hlength : path.length ≤ limit := uncut_population_iff.mp huncut _ _ _ _ htrail
  exact ⟨path.length, hlength, htrail.reaches⟩

end Graph

namespace Bot

theorem ownerOf?_eq_some_iff {b : Bot} (hfiled : b.graph.Filed) {topic text owner : String} :
    b.ownerOf? topic text = some owner ↔ ∃ id p v, b.graph.find? topic = some id ∧
      Pattern.read text = .ok p ∧ b.graph.FirstOwner b.options.limit id v p.text ∧
      (b.graph.topic v).name = owner := by
  have hread (p : Pattern) : (Pattern.read text).toOption = some p ↔ Pattern.read text = .ok p := by
    cases Pattern.read text <;> simp [Except.toOption]
  have htopic {v : TopicId} {trigger : TriggerId} {text : String}
      (howned : b.graph.owned? v text = some trigger) : (b.graph.trigger trigger).topic = v :=
    (hfiled.mem_iff.mp (Graph.of_owned?_eq_some howned).1).2
  simp only [ownerOf?, bind, Option.bind_eq_some_iff, hread, pure, Option.some_inj]
  constructor
  · intro h
    obtain ⟨id, hid, p, hp, trigger, hfound, hname⟩ := h
    obtain ⟨v, hfirst, howned⟩ := Graph.owner?_eq_some_iff.mp hfound
    rw [htopic howned] at hname
    exact ⟨id, p, v, hid, hp, hfirst, hname⟩
  · intro h
    obtain ⟨id, p, v, hid, hp, hfirst, hname⟩ := h
    obtain ⟨trigger, hfound, howned⟩ := hfirst.exists_owner?
    refine ⟨id, hid, p, hp, trigger, hfound, ?_⟩
    rwa [htopic howned]

/-- After any run of operations, the owner that is found for a pattern has a trigger with its text
among what the topic would see with one more edge allowed. It has one among what the topic sees
exactly if it is within the limit, and so whenever the walk is not cut for depth. -/
theorem owner_is_seen_iff (options : Options) (operations : List Operation)
    {topic text owner : String} :
    let b := (new options).run operations
    let limit := b.options.limit
    b.ownerOf? topic text = some owner →
      ∃ id p v, b.graph.find? topic = some id ∧ Pattern.read text = .ok p ∧
        b.graph.find? owner = some v ∧ b.graph.Sees (limit + 1) id v p.text ∧
        (b.graph.Sees limit id v p.text ↔ b.graph.InReach limit id v) ∧
        ((b.graph.population limit id).Uncut → b.graph.Sees limit id v p.text) := by
  intro b limit howner
  have hformed : b.graph.WellFormed := wellFormed_run options operations
  obtain ⟨id, p, v, hid, hp, hfirst, rfl⟩ := (ownerOf?_eq_some_iff hformed.toFiled).mp howner
  have hsearch := hfirst.inSearch
  have howns := hfirst.owns
  have hv : v < b.graph.topics.size := hformed.lt_size_of_owns howns
  have hfind : b.graph.find? (b.graph.topic v).name = some v :=
    hformed.find?_eq_some_iff.mpr ⟨hv, (hformed.keyed v hv).symm⟩
  refine ⟨id, p, v, hid, hp, hfind, hformed.sees_iff.mpr ⟨hsearch.inReach, howns⟩, ?_, ?_⟩
  · rw [hformed.sees_iff]
    exact and_iff_left howns
  · intro huncut
    exact hformed.sees_iff.mpr ⟨hsearch.inReach_of_uncut huncut, howns⟩

/-- With two edges allowed, an owner that is two edges away is seen. -/
theorem owner_is_seen_iff_two_edges :
    let operations := [.addEdge .includes "a" "b", .addEdge .includes "b" "c",
      .register "b" "yo" ["hey"] none, .register "c" "hi" ["hello"] none]
    let b := (new ⟨2, 2⟩).run operations
    b.ownerOf? "a" "Hi" = some "c" ∧
      ∃ id p v, b.graph.find? "a" = some id ∧ Pattern.read "Hi" = .ok p ∧
        b.graph.find? "c" = some v ∧ b.graph.Sees 3 id v p.text ∧
        (b.graph.Sees 2 id v p.text ↔ b.graph.InReach 2 id v) ∧
        ((b.graph.population 2 id).Uncut → b.graph.Sees 2 id v p.text) := by
  intro operations b
  have howner : b.ownerOf? "a" "Hi" = some "c" := by decide +kernel
  exact ⟨howner, owner_is_seen_iff ⟨2, 2⟩ operations howner⟩

/-- With one edge allowed, the search finds an owner that is two edges away, and of which nothing is
seen. -/
theorem owner_beyond_limit :
    let operations := [.addEdge .includes "a" "b", .addEdge .includes "b" "c",
      .register "b" "yo" ["hey"] none, .register "c" "hi" ["hello"] none]
    let b := (new ⟨1, 2⟩).run operations
    b.graph.find? "a" = some 0 ∧ b.graph.find? "c" = some 2 ∧
      Pattern.read "hi" = .ok ⟨[.literal "hi"], 0⟩ ∧ b.ownerOf? "a" "hi" = some "c" ∧
      ¬ b.graph.Sees 1 0 2 "hi" := by
  intro operations b
  have hplain : (b.graph.population 1 0).entries .plain = [⟨0, 0⟩] := by decide +kernel
  have hprevious : (b.graph.population 1 0).entries .previous = [] := by decide +kernel
  have htopic : (b.graph.trigger 0).topic = 1 := by decide +kernel
  refine ⟨by decide +kernel, by decide +kernel, by decide +kernel, by decide +kernel, ?_⟩
  intro hsees
  obtain ⟨kind, entry, hentry, howner, _⟩ := hsees
  cases kind with
  | plain =>
    rw [hplain, List.mem_singleton] at hentry
    rw [hentry, htopic] at howner
    cases howner
  | previous =>
    rw [hprevious] at hentry
    cases hentry

/-- After any run of operations, a topic is found as the owner of a pattern in a search from
itself exactly if, in the order of the search, it is the first topic that owns the pattern. For
that a route of at most one edge more than the limit has to lead back to the topic, and for a
pattern that no other topic in the search owns such a route is enough. -/
theorem own_trigger_found_iff (options : Options) (operations : List Operation) {topic : String}
    {id : TopicId} :
    let b := (new options).run operations
    let limit := b.options.limit
    let name := (b.graph.topic id).name
    b.graph.find? topic = some id →
      (∀ text, b.ownerOf? topic text = some name ↔
        ∃ p, Pattern.read text = .ok p ∧ b.graph.FirstOwner limit id id p.text) ∧
      (¬ b.graph.InSearch limit id id → ∀ text, b.ownerOf? topic text ≠ some name) ∧
      (b.graph.InSearch limit id id → ∀ text p, Pattern.read text = .ok p →
        b.graph.Owns id p.text →
        (∀ v, b.graph.InSearch limit id v → b.graph.Owns v p.text → v = id) →
          b.ownerOf? topic text = some name) := by
  intro b limit name hid
  have hformed : b.graph.WellFormed := wellFormed_run options operations
  have hlt : id < b.graph.topics.size := Graph.lt_size_of_find? hid
  have hfound (text : String) : b.ownerOf? topic text = some name ↔
      ∃ p, Pattern.read text = .ok p ∧ b.graph.FirstOwner limit id id p.text := by
    rw [ownerOf?_eq_some_iff hformed.toFiled]
    constructor
    · intro h
      obtain ⟨start, p, v, hstart, hp, hfirst, hname⟩ := h
      obtain rfl : id = start := Option.some.inj (hid.symm.trans hstart)
      have hv : v = id := hformed.unique v (hformed.lt_size_of_owns hfirst.owns) id hlt hname
      rw [hv] at hfirst
      exact ⟨p, hp, hfirst⟩
    · intro h
      obtain ⟨p, hp, hfirst⟩ := h
      exact ⟨id, p, id, hid, hp, hfirst, rfl⟩
  refine ⟨hfound, fun hback text howner => ?_, fun hback text p hp howns hsole => ?_⟩
  · obtain ⟨p, _, hfirst⟩ := (hfound text).mp howner
    exact hback hfirst.inSearch
  · obtain ⟨v, hfirst⟩ := Graph.exists_firstOwner hback howns
    have hv : v = id := hsole v hfirst.inSearch hfirst.owns
    rw [hv] at hfirst
    exact (hfound text).mpr ⟨p, hp, hfirst⟩

/-- Two topics that include each other: the first is found as the owner of its only pattern. -/
theorem own_trigger_found_iff_two_topics :
    let operations := [.addEdge .includes "a" "b", .addEdge .includes "b" "a",
      .register "a" "x" ["x"] none]
    let b := (new .standard).run operations
    b.graph.find? "a" = some 0 ∧ b.ownerOf? "a" "X" = some (b.graph.topic 0).name := by
  intro operations b
  have hid : b.graph.find? "a" = some 0 := by decide +kernel
  have hnext : 1 ∈ (b.graph.topic 0).includes := by decide +kernel
  have hback : 0 ∈ (b.graph.topic 1).includes := by decide +kernel
  have hsearch : b.graph.InSearch b.options.limit 0 0 :=
    ⟨1, by decide +kernel, ((Graph.Reaches.refl b.graph 0).includes hnext).includes hback⟩
  have howns : b.graph.Owns 0 "x" := ⟨0, by decide +kernel, by decide +kernel⟩
  have hread : Pattern.read "X" = .ok ⟨[.literal "x"], 0⟩ := by decide +kernel
  have hfiled : b.graph.Filed := (wellFormed_run .standard operations).toFiled
  have hsole : ∀ v, b.graph.InSearch b.options.limit 0 v → b.graph.Owns v "x" → v = 0 := by
    intro v _ hv
    obtain ⟨trigger, htrigger, _⟩ := hv
    obtain ⟨hlt, rfl⟩ := hfiled.mem_iff.mp htrigger
    have hsize : b.graph.triggers.size = 1 := by decide +kernel
    rw [hsize] at hlt
    rw [Nat.lt_one_iff.mp hlt]
    decide +kernel
  obtain ⟨_, _, hfound⟩ := own_trigger_found_iff .standard operations hid
  exact ⟨hid, hfound hsearch "X" _ hread howns hsole⟩

/-- A search from a topic on a cycle, or with an edge to itself, comes back with that topic. -/
theorem own_trigger_found_on_cycle :
    ((new .standard).run [.addEdge .includes "a" "b", .addEdge .includes "b" "a",
      .register "a" "x" ["x"] none]).ownerOf? "a" "x" = some "a" ∧
    ((new .standard).run [.addEdge .inherits "a" "a",
      .register "a" "x" ["x"] none]).ownerOf? "a" "x" = some "a" := by
  decide +kernel

end Bot
end Parley
