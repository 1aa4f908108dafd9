import Markweave.Proofs.Text.Cut
import Markweave.Proofs.Text.Interleaved
import Markweave.Proofs.Text.Occurrence
import Markweave.Proofs.Text.Tags
import Markweave.Substitution

namespace Markweave

namespace Substitution

theorem splits_apply {c : Char} {r : Substitution} (hold : r.old ≠ []) (hc : c ∉ r.old) :
    Text.Splits c r.apply := fun a b => Text.replace_append_wall r.new hold hc a b

theorem splits_applyAll {c : Char} {rs : List Substitution} (h : ∀ r ∈ rs, r.old ≠ [] ∧ c ∉ r.old) :
    Text.Splits c (applyAll rs) := by
  induction rs with
  | nil => exact fun a b => rfl
  | cons r rs ih =>
    obtain ⟨hold, hc⟩ := h r List.mem_cons_self
    exact (ih fun q hq => h q (List.mem_cons_of_mem r hq)).comp (splits_apply hold hc)

/-- A text without a character that every literal needs stays as it is. -/
theorem applyAll_of_notMem {c : Char} {rs : List Substitution} (h : ∀ r ∈ rs, c ∈ r.old) {s : Text}
    (hs : c ∉ s) : applyAll rs s = s := by
  induction rs with
  | nil => rfl
  | cons r rs ih =>
    have hr : r.apply s = s := Text.replace_of_notMem r.new (h r List.mem_cons_self) hs
    rw [applyAll, List.foldl_cons, hr]
    exact ih fun q hq => h q (List.mem_cons_of_mem r hq)

theorem notMem_apply {c : Char} {r : Substitution} (hc : c ∉ r.new) {s : Text} (hs : c ∉ s) :
    c ∉ r.apply s := by
  by_cases hold : r.old = []
  · rw [apply, hold, Text.replace]
    exact hs
  · rw [apply]
    induction s using Text.replace_induction r.old hold with
    | nil =>
      rw [Text.replace_nil]
      exact hs
    | found s ih =>
      rw [Text.replace_of_dropStart? r.new hold (Text.dropStart?_append r.old s)]
      simp only [List.mem_append, not_or] at hs ⊢
      exact ⟨hc, ih hs.2⟩
    | skip d s h ih =>
      rw [Text.replace_cons r.new hold h]
      simp only [List.mem_cons, not_or] at hs ⊢
      exact ⟨hs.1, ih hs.2⟩

theorem notMem_applyAll {c : Char} {rs : List Substitution} (h : ∀ r ∈ rs, c ∉ r.new) {s : Text}
    (hs : c ∉ s) : c ∉ applyAll rs s := by
  induction rs generalizing s with
  | nil => exact hs
  | cons r rs ih =>
    exact ih (fun q hq => h q (List.mem_cons_of_mem r hq)) (notMem_apply (h r List.mem_cons_self) hs)

/-- What is put in makes no occurrence of what a substitution of the list is for. -/
def Settling (rs : List Substitution) : Prop := ∀ r ∈ rs, r.old ≠ [] ∧ ∀ q ∈ rs, Text.Apart r.old q.new

instance {rs : List Substitution} : Decidable (Settling rs) := inferInstanceAs (Decidable (∀ r ∈ rs, _ ∧ ∀ q ∈ rs, _))

theorem infix_of_infix_applyAll {n s : Text} {rs : List Substitution} (hold : ∀ r ∈ rs, r.old ≠ [])
    (hnew : ∀ r ∈ rs, Text.Apart n r.new) (h : n <:+: applyAll rs s) : n <:+: s := by
  induction rs generalizing s with
  | nil => exact h
  | cons r rs ih =>
    rw [List.forall_mem_cons] at hold hnew
    exact Text.infix_of_infix_replace hnew.1 hold.1 (ih hold.2 hnew.2 h)

/-- By induction over the list: what is replaced stays away in every later substitution. -/
theorem not_infix_applyAll {rs : List Substitution} (h : Settling rs) (s : Text) :
    ∀ r ∈ rs, ¬ r.old <:+: applyAll rs s := by
  have hlist : ∀ qs ⊆ rs, ∀ s, ∀ r ∈ qs, ¬ r.old <:+: applyAll qs s := by
    intro qs hqs
    induction qs with
    | nil => exact fun s r hr => absurd hr List.not_mem_nil
    | cons q qs ih =>
      obtain ⟨hq, hrest⟩ := List.cons_subset.mp hqs
      intro s
      refine List.forall_mem_cons.mpr ⟨?_, fun r hr => ih hrest (q.apply s) r hr⟩
      intro hinfix
      exact Text.not_infix_replace ((h q hq).2 q hq) (h q hq).1 s
        (infix_of_infix_applyAll (fun r hr => (h r (hrest hr)).1) (fun r hr => (h q hq).2 r (hrest hr)) hinfix)
  exact hlist rs (List.Subset.refl rs) s

theorem applyAll_of_not_infix {s : Text} {rs : List Substitution} (h : ∀ r ∈ rs, r.old ≠ [] ∧ ¬ r.old <:+: s) :
    applyAll rs s = s := by
  induction rs with
  | nil => rfl
  | cons r rs ih =>
    rw [List.forall_mem_cons] at h
    have hr : r.apply s = s := Text.replace_of_not_infix r.new h.1.1 h.1.2
    rw [applyAll, List.foldl_cons, hr]
    exact ih h.2

theorem settling_of_forall_notMem {rs : List Substitution} (hold : ∀ r ∈ rs, r.old ≠ [])
    (hnew : ∀ r ∈ rs, r.new ≠ []) (h : ∀ r ∈ rs, ∀ q ∈ rs, ∀ c ∈ q.new, c ∉ r.old) : Settling rs :=
  fun r hr => ⟨hold r hr, fun q hq => .of_forall_notMem (hold r hr) (hnew q hq) (h r hr q hq)⟩

/-- When nothing that is put in shares a character with anything that is replaced, one run over the list replaces
everything, and a second run finds nothing to do. -/
theorem applyAll_complete {rs : List Substitution} (hold : ∀ r ∈ rs, r.old ≠ []) (hnew : ∀ r ∈ rs, r.new ≠ [])
    (hshare : ∀ r ∈ rs, ∀ q ∈ rs, ∀ c ∈ q.new, c ∉ r.old) (s : Text) :
    (∀ r ∈ rs, ¬ r.old <:+: applyAll rs s) ∧ applyAll rs (applyAll rs s) = applyAll rs s := by
  have hnone := not_infix_applyAll (settling_of_forall_notMem hold hnew hshare) s
  exact ⟨hnone, applyAll_of_not_infix fun r hr => ⟨hold r hr, hnone r hr⟩⟩

/-- Two literals that overlap themselves and hold each other. -/
def overlapping : List Substitution := [⟨"aba", "--"⟩, ⟨"ab", "."⟩]

theorem applyAll_complete_overlapping :
    (∀ r ∈ overlapping, r.old ≠ []) ∧ (∀ r ∈ overlapping, r.new ≠ []) ∧
    (∀ r ∈ overlapping, ∀ q ∈ overlapping, ∀ c ∈ q.new, c ∉ r.old) ∧
    applyAll overlapping "aababababb" = "a--b--bb".toList ∧
    (∀ r ∈ overlapping, ¬ r.old <:+: applyAll overlapping "aababababb") ∧
    applyAll overlapping (applyAll overlapping "aababababb") = applyAll overlapping "aababababb" := by
  have hold : ∀ r ∈ overlapping, r.old ≠ [] := by decide
  have hnew : ∀ r ∈ overlapping, r.new ≠ [] := by decide
  have hshare : ∀ r ∈ overlapping, ∀ q ∈ overlapping, ∀ c ∈ q.new, c ∉ r.old := by simp [overlapping]
  exact ⟨hold, hnew, hshare, by decide +kernel, applyAll_complete hold hnew hshare "aababababb"⟩

end Substitution

namespace Interleaved

variable {ι : Type}

/-- When items stand in brackets, a function that splits at brackets works on gaps and items apart. -/
theorem apply_write {f : Text → Text} (hopen : Text.Splits '<' f) (hclose : Text.Splits '>' f)
    (hnil : f [] = []) {write : ι → Text} {l : Interleaved ι}
    (h : ∀ i ∈ l.items, ∃ t, write i = '<' :: (t ++ ['>'])) :
    f (l.write write) = (l.mapGaps f).write fun i => f (write i) := by
  obtain ⟨first, rest⟩ := l
  simp only [items] at h
  simp only [Interleaved.write, mapGaps]
  induction rest generalizing first with
  | nil => simp [writeRest]
  | cons x rest ih =>
    obtain ⟨i, gap⟩ := x
    simp only [List.map_cons, List.forall_mem_cons] at h
    obtain ⟨t, ht⟩ := h.1
    have hitem : f ('<' :: (t ++ ['>'])) = '<' :: (f t ++ ['>']) := by
      have hsplit := hopen [] (t ++ ['>'])
      rw [hclose t [], hnil] at hsplit
      exact hsplit
    have hrest := ih gap h.2
    simp only [writeRest, List.flatMap_cons, List.map_cons] at hrest ⊢
    rw [ht, hitem]
    simp only [List.cons_append, List.append_assoc, List.nil_append]
    rw [hopen, hclose, hrest]

theorem indexed_mapGaps (f : Text → Text) (l : Interleaved ι) : (l.mapGaps f).indexed = l.indexed.mapGaps f := by
  simp [indexed, mapGaps, List.zipIdx_map, Function.comp_def]

theorem items_mapGaps (f : Text → Text) (l : Interleaved ι) : (l.mapGaps f).items = l.items := by
  simp [items, mapGaps, Function.comp_def]

theorem gaps_mapGaps (f : Text → Text) (l : Interleaved ι) : (l.mapGaps f).gaps = l.gaps.map f := by
  simp [gaps, mapGaps, Function.comp_def]

end Interleaved
end Markweave
