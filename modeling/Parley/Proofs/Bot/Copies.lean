import Parley.Proofs.Bot.BestMatch
import Parley.Proofs.Topic.Collapse

/-!
# Copies of a trigger never answer

A trigger that is reached on several ways may be listed several times, at several depths. Depth is
what entries are ranked by first, so of the copies the one with the least depth is tried first, and
it fails or answers for all of them. Collapsing a population keeps just that copy, so it changes no
hit.
-/
namespace Parley.Graph

section Foremost
variable {g : Graph} {kind : Kind} {entries : List Entry} {Fits : Entry → Prop} {entry : Entry}

/-- Where all copies of a trigger fit or none does, the foremost entry is a copy of least depth. -/
theorem Foremost.shallowest (h : g.Foremost kind entries Fits entry)
    (hcopies : ∀ a b : Entry, a.trigger = b.trigger → Fits a → Fits b) :
    Entry.Shallowest entries entry := by
  refine ⟨h.mem, fun other hother htrigger => ?_⟩
  by_contra hless
  have hne : other ≠ entry := by
    intro heq
    rw [heq] at hless
    omega
  have hfits : Fits other := hcopies entry other htrigger.symm h.fits
  have hprecedes := h.precedes_rank hother hfits hne
  rw [Rank.Precedes, depth_rank, depth_rank] at hprecedes
  omega

/-- The foremost entry stays foremost when copies are collapsed. -/
theorem Foremost.collapse (h : g.Foremost kind entries Fits entry)
    (hcopies : ∀ a b : Entry, a.trigger = b.trigger → Fits a → Fits b) :
    g.Foremost kind (Entry.collapse entries).entries Fits entry where
  mem := (Entry.mem_distinct_iff entries entry).mpr (h.shallowest hcopies)
  fits := h.fits
  precedes other hother := by
    have hshallow := (Entry.mem_distinct_iff entries other).mp hother
    exact h.precedes other hshallow.mem

end Foremost

/-- A scan that looks at triggers only finds the same with and without copies. -/
theorem findSome?_sortEntries_collapse {β : Type} (g : Graph) (kind : Kind) (entries : List Entry)
    {f : Entry → Option β}
    (hcopies : ∀ a b : Entry, a.trigger = b.trigger → (∃ found, f a = some found) →
      ∃ found, f b = some found) :
    (g.sortEntries kind (Entry.collapse entries).entries).findSome? f =
      (g.sortEntries kind entries).findSome? f := by
  cases hall : (g.sortEntries kind entries).findSome? f with
  | none =>
    rw [List.findSome?_eq_none_iff]
    intro entry hentry
    have hshallow := (Entry.mem_distinct_iff entries entry).mp (mem_sortEntries.mp hentry)
    exact eq_none_of_findSome?_eq_none hall hshallow.mem
  | some found =>
    obtain ⟨entry, hfound, hforemost⟩ := foremost_of_findSome?_eq_some hall
    have hcollapsed := hforemost.collapse hcopies
    cases hkept : (g.sortEntries kind (Entry.collapse entries).entries).findSome? f with
    | none =>
      have hnone := eq_none_of_findSome?_eq_none hkept hcollapsed.mem
      rw [hfound] at hnone
      cases hnone
    | some found' =>
      obtain ⟨entry', hfound', hforemost'⟩ := foremost_of_findSome?_eq_some hkept
      have heq : entry' = entry := hforemost'.unique hcollapsed
      rw [heq, hfound] at hfound'
      exact hfound'.symm

/-- However often triggers are listed and at whatever depths, the first entry that answers a
message, or a message after a reply, is the same as in the collapsed list, and captures the same. -/
theorem first_hit_ignores_copies (g : Graph) (arrays : Arrays) (entries : List Entry)
    (message reply : List Word) :
    let collapsed := (Entry.collapse entries).entries
    (g.sortEntries .plain collapsed).findSome? (Hit.plain? g arrays message) =
      (g.sortEntries .plain entries).findSome? (Hit.plain? g arrays message) ∧
    (g.sortEntries .previous collapsed).findSome? (Hit.contextual? g arrays message reply) =
      (g.sortEntries .previous entries).findSome? (Hit.contextual? g arrays message reply) := by
  constructor
  · apply findSome?_sortEntries_collapse
    intro a b htrigger hfits
    obtain ⟨hit, hhit⟩ := hfits
    obtain ⟨captures, halign, _⟩ := Hit.plain?_eq_some_iff.mp hhit
    rw [htrigger] at halign
    exact ⟨_, Hit.plain?_eq_some_iff.mpr ⟨captures, halign, rfl⟩⟩
  · apply findSome?_sortEntries_collapse
    intro a b htrigger hfits
    obtain ⟨hit, hhit⟩ := hfits
    obtain ⟨condition, previousCaptures, captures, hcondition, hprevious, halign, _⟩ :=
      Hit.contextual?_eq_some_iff.mp hhit
    rw [htrigger] at hcondition halign
    exact ⟨_, Hit.contextual?_eq_some_iff.mpr
      ⟨condition, previousCaptures, captures, hcondition, hprevious, halign, rfl⟩⟩

end Parley.Graph
