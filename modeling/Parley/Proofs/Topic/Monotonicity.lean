import Parley.Proofs.Bot.Arena

/-!
# More edges and a greater limit show more

A route stays a route when edges are added or the limit is raised, so what is visible stays visible.
Its depth is the least tag of all routes, and more routes can only lower it. A tag itself changes in
one case only: a topic that gets its first inherit edge is tagged with the inherit edges on the way
from then on, also where it is reached by an include edge.
-/
namespace Parley.Graph

variable {g g' : Graph} {limit limit' : Nat} {kind : Kind} {s v : TopicId} {tag : Nat} {e : Entry}

/-- The trigger of an entry is visible, at no greater depth than the entry has. -/
def Shows (g : Graph) (limit : Nat) (kind : Kind) (s : TopicId) (e : Entry) : Prop :=
  ∃ e' ∈ g.visible limit kind s, e'.trigger = e.trigger ∧ e'.depth ≤ e.depth

/-- An entry is shown exactly if some route yields its trigger with a tag that is no greater. -/
theorem shows_iff : g.Shows limit kind s e ↔
    ∃ tag ≤ e.depth, g.Yields limit s kind ⟨e.trigger, tag⟩ := by
  constructor
  · intro h
    obtain ⟨e', hvisible, htrigger, hdepth⟩ := h
    have hyields := (mem_visible_iff.mp hvisible).1
    rw [← htrigger]
    exact ⟨e'.depth, hdepth, hyields⟩
  · intro h
    obtain ⟨tag, htag, hyields⟩ := h
    obtain ⟨seen, hseen, htrigger, _⟩ := exists_mem_population_of_yields hyields
    have hmem : e.trigger ∈ (g.visible limit kind s).map Entry.trigger := by
      rw [visible, Entry.entries_collapse, Entry.mem_map_trigger_distinct, ← htrigger]
      exact List.mem_map_of_mem hseen
    obtain ⟨e', hvisible, hsame⟩ := List.mem_map.mp hmem
    have hleast := (mem_visible_iff.mp hvisible).2
    rw [hsame] at hleast
    exact ⟨e', hvisible, hsame, Nat.le_trans (hleast tag hyields) htag⟩

/-- Nothing is less deep than zero. -/
theorem mem_visible_of_shows_zero {trigger : TriggerId} (h : g.Shows limit kind s ⟨trigger, 0⟩) :
    ⟨trigger, 0⟩ ∈ g.visible limit kind s := by
  obtain ⟨e', hvisible, htrigger, hdepth⟩ := h
  have heq : e' = ⟨trigger, 0⟩ := Entry.ext htrigger (Nat.le_zero.mp hdepth)
  rwa [← heq]

theorem Route.mono {n i : Nat} {b : Bool} (hroute : g.Route s n i b v) (h : g.Within g') :
    g'.Route s n i b v := by
  induction hroute with
  | start => exact .start
  | includes _ hv ih => exact .includes ih (h.edges .includes _ hv)
  | inherits _ hv ih => exact .inherits ih (h.edges .inherits _ hv)

theorem Tagged.exists_mono (htagged : g.Tagged limit s v tag) (h : g.Within g')
    (hlimit : limit ≤ limit') : ∃ tag', g'.Tagged limit' s v tag' := by
  obtain ⟨n, i, b, hroute, hn, _⟩ := htagged
  exact ⟨_, n, i, b, hroute.mono h, Nat.le_trans hn hlimit, rfl⟩

/-- A topic that gets no first inherit edge keeps its tags. -/
theorem Tagged.mono (htagged : g.Tagged limit s v tag) (h : g.Within g') (hlimit : limit ≤ limit')
    (hfirst : (g.topic v).inherits = [] → (g'.topic v).inherits = []) :
    g'.Tagged limit' s v tag := by
  obtain ⟨n, i, b, hroute, hn, rfl⟩ := htagged
  have hsame : (g'.topic v).inherits = [] ↔ (g.topic v).inherits = [] := by
    refine ⟨fun hnone => ?_, hfirst⟩
    exact List.subset_nil.mp (hnone ▸ h.edges .inherits v)
  refine ⟨n, i, b, hroute.mono h, Nat.le_trans hn hlimit, ?_⟩
  simp only [ne_eq, hsame]

/-- What is visible stays visible, and it gets no deeper if no topic that owns it gets its first
inherit edge. -/
theorem shows_of_within (h : g.Within g') (hsame : g.SameTriggers g') (hlimit : limit ≤ limit')
    (he : e ∈ g.visible limit kind s) :
    (∃ depth, g'.Shows limit' kind s ⟨e.trigger, depth⟩) ∧
      ((∀ v, e.trigger ∈ (g.topic v).triggers → (g.topic v).inherits = [] →
        (g'.topic v).inherits = []) → g'.Shows limit' kind s e) := by
  obtain ⟨v, howned, hkind, htagged⟩ := (mem_visible_iff.mp he).1
  have howned' : e.trigger ∈ (g'.topic v).triggers := by rwa [hsame.owned]
  have hkind' : (g'.trigger e.trigger).kind = kind := by rwa [hsame.trigger_eq]
  constructor
  · obtain ⟨tag', htagged'⟩ := htagged.exists_mono h hlimit
    exact ⟨tag', shows_iff.mpr ⟨tag', Nat.le_refl _, v, howned', hkind', htagged'⟩⟩
  · intro hfirst
    have htagged' := htagged.mono h hlimit (hfirst v howned)
    exact shows_iff.mpr ⟨e.depth, Nat.le_refl _, v, howned', hkind', htagged'⟩

/-- An edge is the first one of its kind in its own topic at most. -/
theorem inherits_addEdge_eq_nil {relation : Relation} {a : TopicId} (b : TopicId)
    (hv : relation = .includes ∨ v ≠ a ∨ (g.topic a).inherits ≠ [])
    (hnone : (g.topic v).inherits = []) :
    ((g.addEdge relation a b).topic v).inherits = [] := by
  unfold addEdge
  split
  · exact hnone
  · rw [topic_unsort, topic_modifyTopic]
    split
    · rename_i h
      obtain ⟨rfl, _⟩ := h
      obtain rfl | hne | hsome := hv
      · exact hnone
      · exact absurd rfl hne
      · exact absurd hnone hsome
    · exact hnone

/-- What a topic owns it shows at depth zero. -/
theorem own_mem_visible {trigger : TriggerId} (howned : trigger ∈ (g.topic s).triggers)
    (hkind : (g.trigger trigger).kind = kind) : ⟨trigger, 0⟩ ∈ g.visible limit kind s := by
  have htagged : g.Tagged limit s s 0 := ⟨0, 0, false, .start, Nat.zero_le _, by simp⟩
  exact mem_visible_of_shows_zero (shows_iff.mpr ⟨0, Nat.le_refl _, s, howned, hkind, htagged⟩)

/-- What is visible from a topic stays visible and gets no deeper when an include edge is added,
when the limit is raised, and when an inherit edge is added. The exception for an inherit edge are
the triggers of the topic that it begins at, if it is the first one there: these stay visible, and
from this topic itself they stay at depth zero. -/
theorem visible_grows (g : Graph) (limit : Nat) (kind : Kind) (s : TopicId) :
    (∀ a b, ∀ e ∈ g.visible limit kind s, (g.addInclude a b).Shows limit kind s e) ∧
    (∀ limit', limit ≤ limit' → ∀ e ∈ g.visible limit kind s, g.Shows limit' kind s e) ∧
    (∀ a b, ∀ e ∈ g.visible limit kind s,
      (∃ depth, (g.addInherit a b).Shows limit kind s ⟨e.trigger, depth⟩) ∧
      (e.trigger ∉ (g.topic a).triggers ∨ (g.topic a).inherits ≠ [] →
        (g.addInherit a b).Shows limit kind s e)) ∧
    (∀ b, ∀ trigger ∈ (g.topic s).triggers, (g.trigger trigger).kind = kind →
      ⟨trigger, 0⟩ ∈ g.visible limit kind s ∧
        ⟨trigger, 0⟩ ∈ (g.addInherit s b).visible limit kind s) := by
  refine ⟨fun a b e he => ?_, fun limit' hlimit e he => ?_, fun a b e he => ?_,
    fun b trigger howned hkind => ?_⟩
  · have hshows := shows_of_within (g.within_addEdge .includes a b)
      (g.sameTriggers_addEdge .includes a b) (Nat.le_refl limit) he
    exact hshows.2 fun v _ => inherits_addEdge_eq_nil b (.inl rfl)
  · have hshows := shows_of_within (.refl g) ⟨rfl, fun _ => rfl⟩ hlimit he
    exact hshows.2 fun v _ hnone => hnone
  · have hshows := shows_of_within (g.within_addEdge .inherits a b)
      (g.sameTriggers_addEdge .inherits a b) (Nat.le_refl limit) he
    refine ⟨hshows.1, fun hexcept => hshows.2 fun v howned hnone => ?_⟩
    refine inherits_addEdge_eq_nil b (.inr (hexcept.imp_left fun hnot => ?_)) hnone
    rintro rfl
    exact hnot howned
  · have hsame : g.SameTriggers (g.addInherit s b) := g.sameTriggers_addEdge .inherits s b
    refine ⟨own_mem_visible howned hkind, own_mem_visible ?_ ?_⟩
    · rwa [hsame.owned]
    · rwa [hsame.trigger_eq]

/-- An inherited topic includes another one, which gets its first inherit edge: what that one owns
is seen one level deeper than before. -/
example :
    let topics := ((Graph.empty.ensure "a").ensure "b").ensure "c"
    let owning := (topics.addTrigger ⟨2, "hi", ⟨[.literal "hi"], 0⟩, [], none⟩).1
    let g := (owning.addInherit 0 1).addInclude 1 2
    g.visible 2 .plain 0 = [⟨0, 0⟩] ∧ (g.addInherit 2 1).visible 2 .plain 0 = [⟨0, 1⟩] := by
  decide +kernel

end Parley.Graph
