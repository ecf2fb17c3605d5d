import Parley.Proofs.Bot.Invariants
import Parley.Proofs.Pattern.Canonical

/-!
# Triggers by the texts of their patterns

A bot finds a trigger by the texts of its patterns: when a trigger is registered again, and when the
owner of a pattern is searched. All triggers of a bot have patterns that were read, and the text of
such a pattern stands for its tokens, so what is found asks the same of a message as what was looked
for.
-/
namespace Parley

namespace Graph

/-- All triggers have patterns that were read, and topics own triggers that exist. -/
structure Readable (g : Graph) : Prop where
  compiled : ∀ t ∈ g.triggers, t.Compiled
  owned : ∀ topic, ∀ id ∈ (g.topic topic).triggers, id < g.triggers.size

theorem trigger_mem {g : Graph} {id : TriggerId} (h : id < g.triggers.size) :
    g.trigger id ∈ g.triggers := by
  simp [trigger, h]

theorem readable_empty : Graph.empty.Readable := by
  refine ⟨fun t ht => ?_, stored_empty⟩
  simp [empty] at ht

theorem Readable.congr {g g' : Graph} (h : g.Readable) (hsame : g.SameTriggers g') :
    g'.Readable where
  compiled := by
    rw [hsame.triggers]
    exact h.compiled
  owned := Stored.congr h.owned hsame

/-- A trigger that is registered again takes over the new pattern, whose text was read, and keeps
its condition. -/
theorem readable_addTrigger {g : Graph} {t : Trigger} (ht : t.Compiled)
    (htopic : t.topic < g.topics.size) (h : g.Readable) : (g.addTrigger t).1.Readable := by
  refine ⟨fun t' ht' => ?_, Stored.addTrigger h.owned htopic⟩
  cases hfound : g.findTrigger? t.topic t.identity with
  | some found =>
    rw [triggers_addTrigger_of_some hfound] at ht'
    obtain ⟨i, hi, rfl⟩ := Array.getElem_of_mem ht'
    rw [Array.size_modify] at hi
    have hold := h.compiled _ (Array.getElem_mem hi)
    rw [Array.getElem_modify]
    split
    · exact ⟨ht.pattern, hold.previous⟩
    · exact hold
  | none =>
    rw [triggers_addTrigger_of_none hfound] at ht'
    obtain hold | rfl := Array.mem_push.mp ht'
    · exact h.compiled t' hold
    · exact ht

theorem kept_readable : Kept Readable :=
  .of_sameTriggers (fun _ _ hsame h => h.congr hsame)
    fun _ _ ht htopic h => readable_addTrigger ht htopic h

variable {g : Graph}

theorem Readable.compiled_of_owned (h : g.Readable) {topic : TopicId} {id : TriggerId}
    (hid : id ∈ (g.topic topic).triggers) : (g.trigger id).Compiled :=
  h.compiled _ (trigger_mem (h.owned topic id hid))

theorem Readable.alike_of_owned? (h : g.Readable) {topic : TopicId} {id : TriggerId}
    {text : String} {p : Pattern} (hp : Pattern.read text = .ok p)
    (hfound : g.owned? topic p.text = some id) : (g.trigger id).pattern.Alike p := by
  have hcompiled := h.compiled_of_owned (List.mem_of_find?_eq_some hfound)
  have htext : (g.trigger id).pattern.text = p.text := by
    simpa using List.find?_some (p := fun id => (g.trigger id).pattern.text == p.text) hfound
  exact Pattern.alike_of_text_eq hcompiled.pattern hp htext

/-- The search for an owner finds what some topic owns. -/
theorem exists_owned_of_ownerFrom {text : String} {budget : Nat} {path : List TopicId}
    {topic : TopicId} {id : TriggerId} (h : g.ownerFrom text budget path topic = some id) :
    ∃ owner, g.owned? owner text = some id := by
  induction budget generalizing path topic with
  | zero => cases h
  | succ budget ih =>
    rw [ownerFrom] at h
    split_ifs at h
    obtain ⟨next, _, hnext⟩ := List.exists_of_findSome?_eq_some h
    split at hnext
    · rename_i found hfound
      rw [Option.some.inj hnext] at hfound
      exact ⟨next, hfound⟩
    · exact ih hnext

/-- Conditions that were read are alike, or both missing, if they have the same text. -/
theorem alike_of_map_text_eq {t t' : Trigger} (ht : t.Compiled) (ht' : t'.Compiled)
    (h : t.previous.map Pattern.text = t'.previous.map Pattern.text) :
    Option.Rel Pattern.Alike t.previous t'.previous := by
  cases hp : t.previous with
  | none =>
    rw [hp, Option.map_none, eq_comm, Option.map_eq_none_iff] at h
    rw [h]
    exact .none
  | some p =>
    rw [hp, Option.map_some, eq_comm, Option.map_eq_some_iff] at h
    obtain ⟨q, hq, htext⟩ := h
    obtain ⟨text, hread⟩ := ht.previous p hp
    obtain ⟨text', hread'⟩ := ht'.previous q hq
    rw [hq]
    exact .some (Pattern.alike_of_text_eq hread hread' htext.symm)

theorem Readable.alike_of_findTrigger? (h : g.Readable) {t : Trigger} (ht : t.Compiled)
    {id : TriggerId} (hfound : g.findTrigger? t.topic t.identity = some id) :
    (g.trigger id).pattern.Alike t.pattern ∧
      Option.Rel Pattern.Alike (g.trigger id).previous t.previous := by
  have hcompiled := h.compiled_of_owned (List.mem_of_find?_eq_some hfound)
  have hidentity : (g.trigger id).identity = t.identity := by
    simpa using List.find?_some (p := fun id => (g.trigger id).identity == t.identity) hfound
  obtain ⟨htext, hprevious⟩ := Prod.mk.inj hidentity
  exact ⟨Pattern.alike_of_text_eq hcompiled.pattern ht.pattern htext,
    alike_of_map_text_eq hcompiled ht hprevious⟩

end Graph

namespace Bot

/-- The text of a pattern that was read is read as the same pattern without its weight, so patterns
of the same text are alike; and after any run of operations, a trigger that is found by the texts of
its patterns, in its own topic or as the owner of a pattern, has patterns like those searched for.
-/
theorem text_stands_for_tokens :
    (∀ text p, Pattern.read text = .ok p → ∃ q, Pattern.read p.text = .ok q ∧ q.text = p.text ∧
      q.tokens = p.tokens ∧ q.mask = p.mask ∧ q.literalCount = p.literalCount ∧
      q.captureCount = p.captureCount ∧ q.weight = 0) ∧
    (∀ text text' p q, Pattern.read text = .ok p → Pattern.read text' = .ok q →
      p.text = q.text → p.Alike q) ∧
    (∀ options operations, let g := ((new options).run operations).graph
      (∀ t : Trigger, t.Compiled → ∀ id, g.findTrigger? t.topic t.identity = some id →
        (g.trigger id).pattern.Alike t.pattern ∧
          Option.Rel Pattern.Alike (g.trigger id).previous t.previous) ∧
      (∀ text p, Pattern.read text = .ok p → ∀ topic id,
        (g.owned? topic p.text = some id → (g.trigger id).pattern.Alike p) ∧
        (∀ limit, g.owner? limit topic p.text = some id → (g.trigger id).pattern.Alike p))) := by
  refine ⟨fun text p h => ?_, fun text text' p q => Pattern.alike_of_text_eq,
    fun options operations => ?_⟩
  · exact ⟨⟨p.tokens, 0⟩, Pattern.read_text h, rfl, rfl, rfl, rfl, rfl, rfl⟩
  · have hreadable := kept_run Graph.kept_readable Graph.readable_empty options operations
    refine ⟨fun t ht id => hreadable.alike_of_findTrigger? ht, fun text p hp topic id =>
      ⟨hreadable.alike_of_owned? hp, fun limit hfound => ?_⟩⟩
    obtain ⟨owner, howned⟩ := Graph.exists_owned_of_ownerFrom hfound
    exact hreadable.alike_of_owned? hp howned

/-- A pattern that was registered with a weight is found by another text for the same tokens. -/
theorem text_stands_for_tokens_respelled :
    let g := ((new ⟨50, 2⟩).run [.register "a" "HEY{weight=3}(you|there)" [] none]).graph
    let p : Pattern := ⟨[.literal "hey", .alternation [["you"], ["there"]]], 0⟩
    Pattern.read "hey ( you|there )" = .ok p ∧ g.owned? 0 p.text = some 0 ∧
      (g.trigger 0).pattern.Alike p ∧ (g.trigger 0).pattern ≠ p := by
  intro g p
  have hread : Pattern.read "hey ( you|there )" = .ok p := by decide +kernel
  have howned : g.owned? 0 p.text = some 0 := by decide +kernel
  obtain ⟨_, _, hfound⟩ := text_stands_for_tokens
  have halike := ((hfound ⟨50, 2⟩ [.register "a" "HEY{weight=3}(you|there)" [] none]).2
    _ p hread 0 0).1 howned
  exact ⟨hread, howned, halike, by decide +kernel⟩

end Bot
end Parley
