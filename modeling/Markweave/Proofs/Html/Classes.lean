import Markweave.Proofs.Text.Segments
import Markweave.StyleRegistry

namespace Markweave

/-- All characters of the text are of the class. -/
def Text.Over (A : Char → Prop) (t : Text) : Prop := ∀ c ∈ t, A c

namespace Text.Over

variable {A : Char → Prop}

theorem of_notMem (hA : ∀ c, c ≠ '<' → A c) {t : Text} (h : '<' ∉ t) : Over A t := by
  intro c hc
  apply hA
  rintro rfl
  exact h hc

theorem append {a b : Text} (ha : Over A a) (hb : Over A b) : Over A (a ++ b) := by
  intro c hc
  rcases List.mem_append.mp hc with h | h
  · exact ha c h
  · exact hb c h

theorem joinWith {sep : Char} (hsep : A sep) {segments : List Text} (h : ∀ s ∈ segments, Over A s) :
    Over A (Text.joinWith sep segments) := by
  intro c hc
  rcases Text.mem_joinWith hc with rfl | ⟨s, hs, hc⟩
  · exact hsep
  · exact h s hs c hc

end Text.Over

open Text (Over)

namespace StyleRegistry

variable {A : Char → Prop}

/-- Every style of every tag keeps to the class of characters. -/
def Over (A : Char → Prop) (r : StyleRegistry) : Prop := ∀ e ∈ r.entries, ∀ s ∈ e.2, Text.Over A s

theorem mem_entries_of_mem_styles {r : StyleRegistry} {tag s : Text} (h : s ∈ r.styles tag) :
    ∃ e ∈ r.entries, s ∈ e.2 := by
  unfold styles at h
  cases hl : r.entries.lookup tag with
  | none =>
    rw [hl] at h
    exact absurd h List.not_mem_nil
  | some styles =>
    rw [hl] at h
    obtain ⟨xs, ys, he, _⟩ := List.lookup_eq_some_iff.mp hl
    refine ⟨(tag, styles), ?_, h⟩
    rw [he]
    exact List.mem_append_right _ List.mem_cons_self

theorem Over.classes (hblank : A ' ') {r : StyleRegistry} (h : r.Over A) (tag : Text) :
    Text.Over A (r.classes tag) := by
  apply Text.Over.joinWith hblank
  intro s hs
  obtain ⟨e, he, hse⟩ := mem_entries_of_mem_styles hs
  exact h e he s hse

theorem forall_updateEntries {P : Text × List Text → Prop} {tag : Text} {f : List Text → List Text}
    {entries : List (Text × List Text)} (hnew : P (tag, f []))
    (hf : ∀ present, P (tag, present) → P (tag, f present)) (h : ∀ e ∈ entries, P e) :
    ∀ e ∈ updateEntries tag f entries, P e := by
  induction entries with
  | nil =>
    intro e he
    rw [updateEntries, List.mem_singleton] at he
    subst he
    exact hnew
  | cons entry entries ih =>
    rw [List.forall_mem_cons] at h
    rw [updateEntries]
    split
    · next htag =>
      subst htag
      exact List.forall_mem_cons.mpr ⟨hf entry.2 h.1, h.2⟩
    · exact List.forall_mem_cons.mpr ⟨h.1, ih h.2⟩

theorem over_updateEntries {tag : Text} {f : List Text → List Text} {entries : List (Text × List Text)}
    (hf : ∀ present, (∀ s ∈ present, Text.Over A s) → ∀ s ∈ f present, Text.Over A s)
    (h : ∀ e ∈ entries, ∀ s ∈ e.2, Text.Over A s) :
    ∀ e ∈ updateEntries tag f entries, ∀ s ∈ e.2, Text.Over A s :=
  forall_updateEntries (P := fun e => ∀ s ∈ e.2, Text.Over A s) (hf [] fun _ hs => absurd hs List.not_mem_nil) hf h

theorem over_foldl_addStyle {styles present : List Text} (hs : ∀ s ∈ styles, Text.Over A s)
    (hp : ∀ s ∈ present, Text.Over A s) : ∀ s ∈ styles.foldl addStyle present, Text.Over A s := by
  induction styles generalizing present with
  | nil => exact hp
  | cons style styles ih =>
    apply ih fun s h => hs s (List.mem_cons_of_mem style h)
    unfold addStyle
    split
    · exact hp
    · intro s h
      rcases List.mem_append.mp h with h | h
      · exact hp s h
      · rw [List.mem_singleton] at h
        subst h
        exact hs s List.mem_cons_self

theorem Over.set {r : StyleRegistry} (h : r.Over A) (tags : List Text) {styles : List Text}
    (hs : ∀ s ∈ styles, Text.Over A s) : (r.set tags styles).Over A := by
  unfold StyleRegistry.set
  induction tags.filter (· ≠ []) generalizing r with
  | nil => exact h
  | cons tag tags ih =>
    apply ih
    apply over_updateEntries _ h
    intro present hp
    exact over_foldl_addStyle (fun s h => hs s (List.mem_filter.mp h).1) hp

theorem Over.reset {r : StyleRegistry} (h : r.Over A) (tags styles : List Text) :
    (r.reset tags styles).Over A := by
  unfold StyleRegistry.reset
  induction tags.filter (· ≠ []) generalizing r with
  | nil => exact h
  | cons tag tags ih =>
    apply ih
    apply over_updateEntries _ h
    intro present hp s hs
    exact hp s (List.mem_filter.mp hs).1

theorem over_seeded (hname : ∀ c, (c.isAlphanum || c == '-') = true → A c) {stylePrefix : Text}
    (h : Text.Over A stylePrefix) : (seeded stylePrefix).Over A := by
  have htags : ∀ tag ∈ styledTags, ("md-" ++ tag).all (fun c => c.isAlphanum || c == '-') = true := by decide
  intro e he s hs
  obtain ⟨tag, htag, rfl⟩ := List.mem_map.mp he
  rw [List.mem_singleton] at hs
  subst hs
  rw [defaultClass, List.append_assoc]
  exact h.append fun c hc => hname c (List.all_eq_true.mp (htags tag htag) c hc)

end StyleRegistry
end Markweave
