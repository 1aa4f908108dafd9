import Markweave.Proofs.Diagram.SinglePass
import Markweave.Proofs.Rendering.Passes
import Markweave.Rendering

namespace Markweave

namespace Marked

/-- The slots take the first `k` numbers, each in one slot, and belong to owners of a kind. -/
structure Numbered (owns : IdOwner → Prop) (k : Nat) (m : Marked) : Prop where
  offsets : (m.slots.map Slot.offset).Perm (List.range k)
  owners : ∀ s ∈ m.slots, owns s.owner

theorem numbered_plain (owns : IdOwner → Prop) (t : Text) : (plain t).Numbered owns 0 := by
  constructor
  · rw [slots_plain]
    exact .refl _
  · rw [slots_plain]
    exact fun s hs => absurd hs List.not_mem_nil

/-- Numbers drawn in addition stand in slots of their own. -/
theorem Numbered.draw {owns draws : IdOwner → Prop} {k : Nat} {m m' : Marked} {owners : List IdOwner}
    (h : m.Numbered owns k) (howners : ∀ o ∈ owners, draws o)
    (hperm : m'.slots.Perm (m.slots ++ Pattern.drawn k owners)) :
    m'.Numbered (fun o => owns o ∨ draws o) (k + owners.length) := by
  constructor
  · have hdrawn : (Pattern.drawn k owners).map Slot.offset = List.range' k owners.length := by
      rw [Pattern.drawn, List.map_map, ← List.zipIdx_map_snd k owners]
      rfl
    have hrange : List.range k ++ List.range' k owners.length = List.range (k + owners.length) := by
      have happend := List.range'_append_1 (s := 0) (m := k) (n := owners.length)
      rw [Nat.zero_add] at happend
      rw [List.range_eq_range', List.range_eq_range', happend]
    rw [← hrange, ← hdrawn]
    refine (hperm.map Slot.offset).trans ?_
    rw [List.map_append]
    exact h.offsets.append_right _
  · intro s hs
    rcases List.mem_append.mp (hperm.mem_iff.mp hs) with hs | hs
    · exact .inl (h.owners s hs)
    · obtain ⟨x, hx, rfl⟩ := List.mem_map.mp hs
      exact .inr (howners _ (List.fst_mem_of_mem_zipIdx hx))

end Marked

/-- A step over HTML and its counter that does the same wherever the counter stands, and puts each number it
draws into a slot. -/
def Steady (owns owns' : IdOwner → Prop) (step : Text × IdCounter → Text × IdCounter) : Prop :=
  ∀ (m : Marked) (k : Nat), m.Numbered owns k → ∃ (m' : Marked) (k' : Nat), m'.Numbered owns' k' ∧
    ∀ first, step (m.fill first, ⟨first + .ofNat k⟩) = (m'.fill first, ⟨first + .ofNat k'⟩)

namespace Steady

variable {owns owns' owns'' : IdOwner → Prop} {f g : Text × IdCounter → Text × IdCounter}

theorem comp (hg : Steady owns' owns'' g) (hf : Steady owns owns' f) :
    Steady owns owns'' fun state => g (f state) := by
  intro m k hm
  obtain ⟨m', k', hm', hstep⟩ := hf m k hm
  obtain ⟨m'', k'', hm'', hstep'⟩ := hg m' k' hm'
  refine ⟨m'', k'', hm'', ?_⟩
  intro first
  dsimp only
  rw [hstep, hstep']

theorem mono (h : ∀ o, owns' o → owns'' o) (hf : Steady owns owns' f) : Steady owns owns'' f := by
  intro m k hm
  obtain ⟨m', k', hm', hstep⟩ := hf m k hm
  exact ⟨m', k', ⟨hm'.offsets, fun s hs => h s.owner (hm'.owners s hs)⟩, hstep⟩

theorem foldl {ι : Type} {step : Text × IdCounter → ι → Text × IdCounter} {is : List ι}
    (h : ∀ i ∈ is, Steady owns owns fun state => step state i) :
    Steady owns owns fun state => is.foldl step state := by
  induction is with
  | nil => exact fun m k hm => ⟨m, k, hm, fun first => rfl⟩
  | cons i is ih =>
    rw [List.forall_mem_cons] at h
    exact (ih h.2).comp h.1

/-- A pass that sees slots is steady. -/
theorem renumber {α : Type} {p : Pattern α} {write : UInt64 → α → Text} {draws : IdOwner → Prop}
    (hquiet : ∀ s : Slot, owns s.owner → ∀ first, p.Quiet (s.write first))
    (hsees : ∀ m : Marked, (∀ s ∈ m.slots, owns s.owner) → p.Sees write draws m) :
    Steady owns (fun o => owns o ∨ draws o) fun state => p.renumber write state.2 state.1 := by
  intro m k hm
  obtain ⟨m', owners, howners, hperm, hpass⟩ := p.renumber_fill (owns ·.owner) hquiet hsees m hm.owners k
  exact ⟨m', k + owners.length, hm.draw howners hperm, hpass⟩

/-- Replacing literals around slots is steady. -/
theorem replace {o : Char} {os : Text} (hlt : '<' ∉ o :: os) (ho : IdOwner.isStartChar o = false) (new : Text) :
    Steady owns owns fun state => (Substitution.apply ⟨o :: os, new⟩ state.1, state.2) := by
  intro m k hm
  obtain ⟨m', hslots, hfill⟩ := Marked.replace_fill hlt ho new m
  refine ⟨m', k, ⟨hslots ▸ hm.offsets, hslots ▸ hm.owners⟩, ?_⟩
  intro first
  exact congrArg (·, _) (hfill first)

end Steady

theorem Diagram.steady_extract {stylePrefix : Text} (hstyle : '<' ∉ stylePrefix) :
    Steady (·.isHeading = false) (·.isHeading = false) fun state => extract stylePrefix state.2 state.1 := by
  have hm := notMem_marker hstyle
  have hboth : ∀ o : IdOwner, o.isHeading = false ∨ o.isHeading = false → o.isHeading = false :=
    fun o ho => ho.elim (fun h => h) (fun h => h)
  have hkinds : Steady (·.isHeading = false) (·.isHeading = false) fun state =>
      DiagramKind.all.foldl (extractKind (stylePrefix ++ "md-code")) state := by
    apply Steady.foldl
    intro k hk
    apply Steady.mono hboth
    exact .renumber (fun s _ first => quiet_write rfl first s) fun m _ => sees_tagged hm hk m
  have hrest : Steady (·.isHeading = false) (·.isHeading = false) fun state =>
      (untagged (stylePrefix ++ "md-code")).renumber (codePlaceholder stylePrefix) state.2 state.1 := by
    apply Steady.mono hboth
    exact .renumber (fun s _ first => quiet_write rfl first s) fun m _ => sees_untagged hm stylePrefix m
  exact hrest.comp hkinds

theorem HeadingIds.steady_inject :
    Steady (·.isHeading = false) (fun _ => True) fun state => inject state.2 state.1 := by
  apply Steady.mono fun _ _ => trivial
  exact .renumber (fun s hs first => quiet_write hs first) fun m hm => sees_tag hm

/-- HTML with slots for all the numbers that are drawn for it. -/
structure Skeleton where
  text : Marked
  offsets : (text.slots.map Slot.offset).Perm (List.range text.slots.length)

namespace Skeleton

def count (sk : Skeleton) : Nat := sk.text.slots.length

/-- The HTML when the first number drawn is `first`. -/
def html (first : UInt64) (sk : Skeleton) : Text := sk.text.fill first

end Skeleton

namespace Rendering

theorem steady_entityFixups (owns : IdOwner → Prop) :
    Steady owns owns fun state => (Substitution.applyAll entityFixups state.1, state.2) := by
  have hdash : Steady owns owns fun state => (Substitution.apply ⟨"&mdash;", "---"⟩ state.1, state.2) :=
    .replace (o := '&') (by decide) (by decide) "---"
  have hgt : Steady owns owns fun state => (Substitution.apply ⟨"&amp;gt;", "&gt;"⟩ state.1, state.2) :=
    .replace (o := '&') (by decide) (by decide) "&gt;"
  exact hgt.comp hdash

/-- Written HTML is finished in one way wherever the counter stands. -/
theorem exists_skeleton {stylePrefix : Text} (hstyle : '<' ∉ stylePrefix) (html : Text) :
    ∃ sk : Skeleton, ∀ first, finish stylePrefix ⟨first⟩ html = (sk.html first, ⟨first + .ofNat sk.count⟩) := by
  have hsteady := HeadingIds.steady_inject.comp ((steady_entityFixups _).comp (Diagram.steady_extract hstyle))
  obtain ⟨m, k, hm, hstep⟩ := hsteady _ 0 (Marked.numbered_plain _ (Source.ellipsis.apply html))
  obtain rfl : k = m.slots.length := by
    have hlength := hm.offsets.length_eq
    rw [List.length_map, List.length_range] at hlength
    exact hlength.symm
  refine ⟨⟨m, hm.offsets⟩, ?_⟩
  intro first
  have hfirst := hstep first
  rw [Marked.fill_plain, show first + UInt64.ofNat 0 = first from UInt64.add_zero first] at hfirst
  exact hfirst

end Rendering
end Markweave
