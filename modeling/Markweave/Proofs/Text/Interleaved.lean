import Markweave.Proofs.Text.Pattern

namespace Markweave

/-- What stands before the first item, then each item with what stands behind it. -/
structure Interleaved (ι : Type) where
  first : Text
  rest : List (ι × Text)

namespace Interleaved

variable {ι κ : Type}

def items (l : Interleaved ι) : List ι := l.rest.map Prod.fst

def gaps (l : Interleaved ι) : List Text := l.first :: l.rest.map Prod.snd

def writeRest (f : ι → Text) (rest : List (ι × Text)) : Text :=
  rest.flatMap fun (i, gap) => f i ++ gap

def write (f : ι → Text) (l : Interleaved ι) : Text := l.first ++ writeRest f l.rest

/-- Every item with its position. -/
def indexed (l : Interleaved ι) : Interleaved (ι × Nat) :=
  ⟨l.first, l.rest.zipIdx.map fun ((i, gap), k) => ((i, k), gap)⟩

def map (f : ι → κ) (l : Interleaved ι) : Interleaved κ :=
  ⟨l.first, l.rest.map fun (i, gap) => (f i, gap)⟩

def mapGaps (f : Text → Text) (l : Interleaved ι) : Interleaved ι :=
  ⟨f l.first, l.rest.map fun (i, gap) => (i, f gap)⟩

theorem write_map (f : κ → Text) (g : ι → κ) (l : Interleaved ι) :
    (l.map g).write f = l.write (f ∘ g) := by
  simp [write, writeRest, map, List.flatMap_map]

theorem items_map (g : ι → κ) (l : Interleaved ι) : (l.map g).items = l.items.map g := by
  simp [items, map]

theorem gaps_map (g : ι → κ) (l : Interleaved ι) : (l.map g).gaps = l.gaps := by
  simp [gaps, map, Function.comp_def]

theorem items_indexed (l : Interleaved ι) : l.indexed.items = l.items.zipIdx := by
  simp [items, indexed, List.zipIdx_map, Function.comp_def]

theorem gaps_indexed (l : Interleaved ι) : l.indexed.gaps = l.gaps := by
  have h := List.zipIdx_map_fst 0 l.rest
  have hs := congrArg (List.map Prod.snd) h
  rw [List.map_map] at hs
  simp only [gaps, indexed, List.map_map]
  rw [← hs]
  rfl

theorem write_indexed (f : ι → Text) (l : Interleaved ι) : l.indexed.write (fun x => f x.1) = l.write f := by
  have h := congrArg (List.flatMap fun (i, gap) => f i ++ gap) (List.zipIdx_map_fst 0 l.rest)
  rw [List.flatMap_map] at h
  rw [write, write, writeRest, writeRest, ← h]
  simp [indexed, List.flatMap_map]

/-- Behind the first item the positions are one further. -/
theorem write_indexed_cons (f : ι × Nat → Text) (first : Text) (i : ι) (l : Interleaved ι) :
    (⟨first, (i, l.first) :: l.rest⟩ : Interleaved ι).indexed.write f =
      first ++ (f (i, 0) ++ l.indexed.write fun (j, k) => f (j, k + 1)) := by
  simp [write, writeRest, indexed, List.zipIdx_succ, List.flatMap_map]

theorem indexed_map (g : ι → κ) (l : Interleaved ι) :
    (l.map g).indexed = l.indexed.map fun (i, k) => (g i, k) := by
  simp [indexed, map, List.zipIdx_map, Function.comp_def]

end Interleaved

namespace Pattern

variable {α ι : Type} (p : Pattern α) (write : UInt64 → α → Text)

/-- Nothing is found that starts in the text, whatever follows. -/
def Quiet (t : Text) : Prop := ∀ u c v, t = u ++ c :: v → ∀ s, p.read? (c :: (v ++ s)) = none

/-- Nothing is found that starts in the text when a tag or nothing follows. -/
def QuietGap (t : Text) : Prop :=
  ∀ u c v, t = u ++ c :: v → ∀ s : Text, (∀ d ∈ s.head?, d = '<') → p.read? (c :: (v ++ s)) = none

/-- How a pass treats one item: a find takes the item as a whole, and what is no find stays. -/
structure Treats (before after : ι → Text) (number : ι → UInt64) (finds : ι → Bool) (i : ι) : Prop where
  opens : (before i).head? = some '<'
  found : finds i = true →
    ∃ a, (∀ s, p.read? (before i ++ s) = some (a, s)) ∧ write (number i) a = after i
  kept : finds i = false → p.Quiet (before i) ∧ after i = before i

theorem Quiet.gap {t : Text} (h : p.Quiet t) : p.QuietGap t := by
  intro u c v he s _
  exact h u c v he s

theorem Quiet.append {a b : Text} (ha : p.Quiet a) (hb : p.Quiet b) : p.Quiet (a ++ b) := by
  intro u c v he s
  rcases List.append_eq_append_iff.mp he with ⟨w, rfl, hw⟩ | ⟨w, rfl, hw⟩
  · exact hb w c v hw s
  · cases w with
    | nil => exact hb [] c v (by simpa using hw.symm) s
    | cons d w =>
      simp only [List.cons_append, List.cons.injEq] at hw
      obtain ⟨rfl, rfl⟩ := hw
      rw [List.append_assoc]
      exact ha u c w rfl (b ++ s)

/-- What the pattern finds begins as a tag does. -/
def FindsTags : Prop := ∀ s a r, p.read? s = some (a, r) → s.head? = some '<'

variable {p} in
theorem FindsTags.read?_eq_none (h : p.FindsTags) {c : Char} (hc : c ≠ '<') (s : Text) :
    p.read? (c :: s) = none := by
  cases hr : p.read? (c :: s) with
  | none => rfl
  | some find => exact absurd (Option.some.inj (h _ _ _ hr)) hc

variable {p} in
theorem FindsTags.quiet (h : p.FindsTags) {t : Text} (ht : '<' ∉ t) : p.Quiet t := by
  intro u c v he s
  apply h.read?_eq_none
  rintro rfl
  exact ht (by simp [he])

variable {p} in
/-- A tag is quiet when nothing is found where it begins. -/
theorem FindsTags.quiet_tag (h : p.FindsTags) {t : Text} (ht : '<' ∉ t)
    (hs : ∀ s, p.read? ('<' :: (t ++ s)) = none) : p.Quiet ('<' :: t) := by
  intro u c v he s
  cases u with
  | nil =>
    simp only [List.nil_append, List.cons.injEq] at he
    obtain ⟨rfl, rfl⟩ := he
    exact hs s
  | cons d u =>
    simp only [List.cons_append, List.cons.injEq] at he
    exact h.quiet ht u c v he.2 s

theorem renumber_quiet {t : Text} (h : p.Quiet t) (ids : IdCounter) (s : Text) :
    p.renumber write ids (t ++ s) = (t ++ (p.renumber write ids s).1, (p.renumber write ids s).2) :=
  p.renumber_append write ids fun u c v he => h u c v he s

theorem renumber_gap {t : Text} (h : p.QuietGap t) (ids : IdCounter) {s : Text}
    (hs : ∀ d ∈ s.head?, d = '<') :
    p.renumber write ids (t ++ s) = (t ++ (p.renumber write ids s).1, (p.renumber write ids s).2) :=
  p.renumber_append write ids fun u c v he => h u c v he s hs

section

variable {before after : ι → Text} {number : ι → UInt64} {finds : ι → Bool}

theorem Treats.head_writeRest {rest : List (ι × Text)}
    (h : ∀ i ∈ rest.map Prod.fst, p.Treats write before after number finds i) :
    ∀ d ∈ (Interleaved.writeRest before rest).head?, d = '<' := by
  cases rest with
  | nil => simp [Interleaved.writeRest]
  | cons x rest =>
    have ho := (h x.1 (by simp)).opens
    intro d hd
    obtain ⟨t, ht⟩ := List.head?_eq_some_iff.mp ho
    simp only [Interleaved.writeRest, List.flatMap_cons, ht, List.cons_append, List.head?_cons,
      Option.mem_some_iff] at hd
    exact hd.symm

/-- The induction over the items: `n` is the number of the next find. -/
theorem renumber_writeRest {rest : List (ι × Text)} (n : UInt64)
    (hgaps : ∀ g ∈ rest.map Prod.snd, p.QuietGap g)
    (hitems : ∀ i ∈ rest.map Prod.fst, p.Treats write before after number finds i)
    (hnumber : ∀ xs i ys, rest.map Prod.fst = xs ++ i :: ys → finds i = true →
      number i = n + UInt64.ofNat (xs.countP finds)) :
    p.renumber write ⟨n⟩ (Interleaved.writeRest before rest) =
      (Interleaved.writeRest after rest, ⟨n + UInt64.ofNat ((rest.map Prod.fst).countP finds)⟩) := by
  induction rest generalizing n with
  | nil => simpa [Interleaved.writeRest] using p.renumber_nil write ⟨n⟩
  | cons x rest ih =>
    obtain ⟨i, gap⟩ := x
    simp only [List.map_cons, List.mem_cons, forall_eq_or_imp] at hgaps hitems
    have hhead := Treats.head_writeRest p write hitems.2
    have hsplit : ∀ f : ι → Text, Interleaved.writeRest f ((i, gap) :: rest) =
        f i ++ (gap ++ Interleaved.writeRest f rest) := by
      intro f
      simp [Interleaved.writeRest]
    simp only [hsplit]
    cases hf : finds i with
    | true =>
      obtain ⟨a, hread, hwrite⟩ := hitems.1.found hf
      have hi : number i = n := by simpa using hnumber [] i (rest.map Prod.fst) rfl hf
      have hrest := ih (n + 1) hgaps.2 hitems.2 (by
        intro xs j ys he hj
        rw [hnumber (i :: xs) j ys (by simp [he]) hj, List.countP_cons_of_pos hf, UInt64.add_one_add_ofNat])
      rw [p.renumber_of_read? write ⟨n⟩ (hread _), p.renumber_gap write hgaps.1 _ hhead, hrest,
        ← hwrite, hi, List.map_cons, List.countP_cons_of_pos hf, UInt64.add_one_add_ofNat]
    | false =>
      obtain ⟨hquiet, hafter⟩ := hitems.1.kept hf
      have hrest := ih n hgaps.2 hitems.2 (by
        intro xs j ys he hj
        rw [hnumber (i :: xs) j ys (by simp [he]) hj]
        simp [hf])
      rw [p.renumber_quiet write hquiet, p.renumber_gap write hgaps.1 _ hhead, hrest, hafter]
      simp [hf]

theorem renumber_interleaved {l : Interleaved ι} (n : UInt64)
    (hgaps : ∀ g ∈ l.gaps, p.QuietGap g)
    (hitems : ∀ i ∈ l.items, p.Treats write before after number finds i)
    (hnumber : ∀ xs i ys, l.items = xs ++ i :: ys → finds i = true →
      number i = n + UInt64.ofNat (xs.countP finds)) :
    p.renumber write ⟨n⟩ (l.write before) =
      (l.write after, ⟨n + UInt64.ofNat (l.items.countP finds)⟩) := by
  simp only [Interleaved.gaps, List.mem_cons, forall_eq_or_imp] at hgaps
  rw [Interleaved.write, p.renumber_gap write hgaps.1 _ (Treats.head_writeRest p write hitems),
    p.renumber_writeRest write n hgaps.2 hitems hnumber]
  rfl

end
end Pattern
end Markweave
