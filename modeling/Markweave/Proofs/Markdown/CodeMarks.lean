import Markweave.Proofs.Markdown.Matches

namespace Markweave.Markdown

open Source (OwnLines blankMark)
open Interleaved (writeRest)

variable {opts : Options} {o o' q : Outline} {s w w' x : Text}

theorem NoEscapedFence.of_append (h : NoEscapedFence (x ++ w)) (hx : x = [] ∨ x.getLast? = some '\n') :
    NoEscapedFence x := by
  rintro u t rfl v c below rfl hv hc
  have hlong := h u (v ++ '\\' :: c :: (below ++ w)) (by simp) v c (below ++ w) rfl hv hc
  cases below with
  | nil => rfl
  | cons d below =>
    have hlast : (d :: below).getLast? = some '\n' := by
      rcases hx with hnil | hlast
      · simp at hnil
      · simpa [List.getLast?_append, List.getLast?_cons] using hlast
    rwa [startsFence_append (List.mem_of_getLast? hlast)] at hlong

theorem StartsLine.of_append {y : Text} (h : StartsLine (x ++ w) (y ++ w)) (hw : w ≠ []) : StartsLine x y := by
  rcases h with hnil | ⟨p, c, heq, hc⟩
  · exact absurd (List.append_eq_nil_iff.mp hnil).2 hw
  · refine .inr ⟨p, c, ?_, hc⟩
    rw [← List.cons_append, ← List.append_assoc] at heq
    exact List.append_cancel_right heq

namespace BlockReader

/-- Before a place inside code the reader is inside the code already, or the fence is still to come. -/
theorem Reads.inCode_or_barred (h : Reads opts o s q w) (hw : '\n' ∈ w) (hq : q.InCode) (hs : s = x ++ w)
    (hx : x = [] ∨ x.getLast? = some '\n') : o.InCode ∨ Barred x := by
  induction h generalizing x with
  | done => exact .inl hq
  | @step o o' _ c y s t w hfirst first more ih =>
    obtain ⟨z, rfl⟩ := more.suffix
    have hz : x = c :: (y ++ z) := by
      rw [hs, ← List.append_assoc, ← List.cons_append] at hfirst
      exact List.append_cancel_right hfirst
    have hsmem : '\n' ∈ s := by
      rw [hs]
      exact List.mem_append_right x hw
    have hzlast : z = [] ∨ z.getLast? = some '\n' := by
      by_cases hnil : z = []
      · exact .inl hnil
      · exact .inr (Link.getLast?_suffix (hx.resolve_left (by simp [hz])) ⟨c :: y, by simp [hz]⟩ hnil)
    rcases ih hw hq rfl hzlast with hcode | hbarred
    · obtain ⟨hframes, f, indent, info, content, hleaf⟩ := hcode
      have hstep := step_fenced_cases (show (BlockReader.step opts o s).1.leaf = _ by rw [first]; exact hleaf)
      rw [first] at hstep
      rcases hstep with ⟨⟨before, line, hbefore, _⟩, hkept⟩ | ⟨_, _, hstarts⟩
      · exact .inl ⟨hkept.symm.trans hframes, f, indent, info, before, hbefore⟩
      · have hxmem := List.mem_of_getLast? (hx.resolve_left (by simp [hz]))
        have hfence := hstarts hframes
        rw [hs, startsFence_append hxmem] at hfence
        exact .inr (.fence hfence hxmem)
    · have hline := startsLine_step opts hsmem o
      rw [first, hs] at hline
      exact .inr (hbarred.of_startsLine (hline.of_append (List.ne_nil_of_mem hw)))

/-- A step inside code or above a fence, with more text behind. -/
theorem step_append_of_inCode_or_barred (opts : Options) (h : o.InCode ∨ Barred x) (ho : Orderly o)
    (he : NoEscapedFence x) (hx : x.getLast? = some '\n') (w : Text) :
    step opts o (x ++ w) = restAppend w (step opts o x) ∨ Overruns w (step opts o (x ++ w)) := by
  have hmark : ∀ {f indent info content}, o.leaf = .fenced f indent info content → f.mark ≠ '\n' :=
    fun hleaf => (ho _ _ _ _ hleaf).1.mark_ne (by decide)
  rcases h with ⟨hframes, f, indent, info, content, hleaf⟩ | hbarred
  · left
    rw [step_fenced hframes hleaf, step_fenced hframes hleaf]
    exact continueFenced_append (c := .start x) (hmark hleaf) (List.mem_of_getLast? hx) o indent info content w
  · exact step_append hbarred he hx (fun _ _ _ _ hleaf => hmark hleaf) w

theorem Overruns.not_suffix {after : Outline × Text} (h : Overruns w after) (hw : w ≠ []) : ¬w <:+ after.2 := by
  intro hsuffix
  have hlength := (hsuffix.trans h.2).length_le
  have hpos := List.length_pos_iff.mpr hw
  rw [List.length_tail] at hlength
  omega

/-- Up to the next place inside code that matters, another text behind makes no difference. -/
theorem Reads.follow (h : Reads opts o s q w) (hs : s = x ++ w) (hw : '\n' ∈ w) (hq : q.InCode)
    (hx : x = [] ∨ x.getLast? = some '\n') (he : NoEscapedFence x) (ho : Orderly o) (hm : Matches o o')
    (hw' : ∀ o, titleLine o w' = none) : ∃ q', Reads opts o' (x ++ w') q' w' ∧ Matches q q' := by
  induction h generalizing x o' with
  | done =>
    obtain rfl : x = [] := by simpa using hs
    exact ⟨o', .done, hm⟩
  | @step o p q c y s t w hfirst first more ih =>
    have hplace := (Reads.step hfirst first more).inCode_or_barred hw hq hs hx
    have hwne := List.ne_nil_of_mem hw
    obtain ⟨z, rfl⟩ := more.suffix
    have hxz : x = c :: (y ++ z) := by
      rw [hs, ← List.append_assoc, ← List.cons_append] at hfirst
      exact List.append_cancel_right hfirst
    have hlast := hx.resolve_left (by simp [hxz])
    have hz : z = [] ∨ z.getLast? = some '\n' := by
      by_cases hnil : z = []
      · exact .inl hnil
      · exact .inr (Link.getLast?_suffix hlast ⟨c :: y, by simp [hxz]⟩ hnil)
    -- The step is the same with either text behind.
    have hstep : BlockReader.step opts o x = (p, z) := by
      have hsame := (step_append_of_inCode_or_barred opts hplace ho he hlast w).resolve_right
      rw [← hs, first] at hsame
      have heq := hsame fun hover => hover.not_suffix hwne (List.suffix_append z w)
      obtain ⟨hp, hrest⟩ := Prod.mk.inj heq
      exact Prod.ext hp.symm (List.append_cancel_right hrest).symm
    have hother : BlockReader.step opts o (x ++ w') = (p, z ++ w') := by
      have hsame := (step_append_of_inCode_or_barred opts hplace ho he hlast w').resolve_right
      rw [hstep] at hsame
      exact hsame fun hover => by simpa [hw'] using hover.1
    obtain ⟨p', hp', hmatches⟩ := hm.step hother
    have hp : Orderly p := by
      have horderly := ho.step (show (BlockReader.step opts o s).2 ≠ [] by rw [first]; simp [hwne])
      rwa [first] at horderly
    have hzescape : NoEscapedFence z := he.suffix ⟨c :: y, by simp [hxz]⟩
    obtain ⟨q', hreads, hq'⟩ := ih rfl hw hq hz hzescape hp hmatches
    exact ⟨q', .step (c := c) (x := y) (by simp [hxz]) hp' hreads, hq'⟩

theorem titleLine_newline (o : Outline) (s : Text) : titleLine o ('\n' :: s) = none := by
  obtain ⟨u, hu, hends⟩ := o.sameLine_enter ('\n' :: s)
  have hrest : (o.enter ('\n' :: s)).2.rest = '\n' :: s := by
    cases u with
    | nil => exact hu.symm
    | cons c u =>
      obtain ⟨rfl, _⟩ := List.cons.inj hu
      exact absurd (hends '\n' List.mem_cons_self) (by decide)
  have hblank : isBlank (o.enter ('\n' :: s)).2.rest = true := by
    rw [hrest]
    rfl
  exact if_pos hblank

/-- Reading a text with marks comes to the same as reading the text with empty lines, if every mark is found inside
code. -/
theorem matches_run {gap : Text} {rest : List (Text × Text)} (hown : OwnLines gap rest)
    (hempty : ∀ i ∈ rest.map Prod.fst, i = []) (hm : Matches o o') (ho : Orderly o)
    (he : NoEscapedFence (gap ++ writeRest (fun _ => blankMark) rest))
    (hcode : ∀ more, more <:+ rest → more ≠ [] → ∃ q, Reads opts o (gap ++ writeRest (fun _ => blankMark) rest) q
      (writeRest (fun _ => blankMark) more) ∧ q.InCode) :
    Matches (run opts o 0 (gap ++ writeRest (fun _ => blankMark) rest)) (run opts o' 0 (gap ++ writeRest id rest)) := by
  induction hown generalizing o o' with
  | last gap => exact hm.run 0 _
  | @more gap next i rest hgap hnext ih =>
    rw [List.map_cons, List.forall_mem_cons] at hempty
    obtain ⟨rfl, hempty⟩ := hempty
    obtain ⟨q, hreads, hq⟩ := hcode _ (List.suffix_refl _) (List.cons_ne_nil _ _)
    have hmarked : writeRest (fun _ => blankMark) (([], '\n' :: next) :: rest) =
        blankMark ++ '\n' :: (next ++ writeRest (fun _ => blankMark) rest) := by
      simp [writeRest]
    have hunmarked : writeRest id (([], '\n' :: next) :: rest) = '\n' :: (next ++ writeRest id rest) := by
      simp [writeRest]
    rw [hmarked] at hreads he hcode ⊢
    rw [hunmarked]
    obtain ⟨q', hreads', hmq⟩ := hreads.follow rfl (by simp) hq hgap (he.of_append hgap) ho hm
      fun o => titleLine_newline o (next ++ writeRest id rest)
    obtain ⟨p, p', hp, hp', hmp, horderly⟩ := hmq.mark opts hq (hreads.orderly (by simp) ho)
      (next ++ writeRest (fun _ => blankMark) rest) (next ++ writeRest id rest)
    have hall := hreads.trans (.step (c := '.') (x := ['\n']) rfl hp .done)
    rw [hall.run_eq, (hreads'.trans (.step (c := '\n') (x := []) rfl hp' .done)).run_eq]
    refine ih hempty hmp horderly (he.suffix ⟨gap ++ (blankMark ++ ['\n']), by simp⟩) ?_
    intro more hmore hne
    obtain ⟨r, hr, hrcode⟩ := hcode more (hmore.trans (List.suffix_cons _ _)) hne
    obtain ⟨before, rfl⟩ := hmore
    exact ⟨r, hall.resume hr (by simp [writeRest]; omega), hrcode⟩

end BlockReader

/-- The reader of a text with marks comes by each of them inside fenced code that no frame is around. -/
def MarksInCode (opts : Options) (l : Interleaved Text) : Prop :=
  ∀ more, more <:+ l.rest → more ≠ [] →
    ∃ o, BlockReader.Reads opts .empty (l.write fun _ => blankMark) o (writeRest (fun _ => blankMark) more) ∧ o.InCode

end Markweave.Markdown
