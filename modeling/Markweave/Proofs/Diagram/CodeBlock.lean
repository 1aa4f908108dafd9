import Markweave.Diagram
import Markweave.Settings.Validity
import Markweave.Proofs.Text.Cut
import Markweave.Proofs.Text.Interleaved

namespace Markweave.Diagram

/-- Code as it stands in written HTML. -/
structure CodeBlock where
  info : Text
  body : Text
deriving Repr, DecidableEq

namespace CodeBlock

def write (marker : Text) (b : CodeBlock) : Text :=
  openingTag marker ++ (b.info ++ '\n' :: (b.body ++ "</code>"))

/-- The info string up to its first space or tab. -/
def word (b : CodeBlock) : Text := b.info.takeWhile fun c => c != ' ' && c != '\t'

/-- The pass that takes the block: the kind of its word, or the pass after all kinds. -/
def pass (b : CodeBlock) : Nat := DiagramKind.all.findIdx fun k => k.tag == b.word

/-- What becomes of the block under a number. -/
def placeholder (stylePrefix : Text) (b : CodeBlock) (id : UInt64) : Text :=
  match DiagramKind.all[b.pass]? with
  | some k => k.placeholder id b.body
  | none => codePlaceholder stylePrefix id b.body

/-- The info string is part of one line without markup, and the body has no markup either. -/
structure Sound (b : CodeBlock) : Prop where
  info : ∀ c ∈ b.info, c ≠ '\n' ∧ c ≠ '<'
  body : ∀ c ∈ b.body, c ≠ '<' ∧ isBodyChar c = true

end CodeBlock

/-- Wherever the opening tag of code occurs, a tag or the end comes before the end of the line. -/
def HoldsCodeInline (marker gap : Text) : Prop :=
  ∀ before after, gap = before ++ openingTag marker ++ after → '\n' ∉ after.takeWhile (· ≠ '<')

theorem HoldsCodeInline.of_notMem {marker gap : Text} (h : '<' ∉ gap) : HoldsCodeInline marker gap := by
  intro before after he
  have hopen : '<' ∈ openingTag marker := List.mem_cons_self
  exact absurd (by simp [he, hopen]) h

/-- The pattern of a pass: it takes those sound blocks that `takes` says, and needs a line end behind the
opening tag. -/
structure IsPass (marker : Text) (p : Pattern Text) (takes : CodeBlock → Bool) : Prop where
  reads : ∃ skip?, p.read? = readCode? marker skip? ∧
    (∀ s, skipInfo? s = none → skip? s = none) ∧
    ∀ b : CodeBlock, b.Sound → ∀ s, skip? (b.info ++ '\n' :: s) = if takes b then some s else none

theorem skipInfo?_append {info : Text} (h : ∀ c ∈ info, c ≠ '\n' ∧ c ≠ '<') (s : Text) :
    skipInfo? (info ++ s) = skipInfo? s := by
  have hd : (info ++ s).dropWhile (fun c => c != '\n' && c != '<') =
      s.dropWhile fun c => c != '\n' && c != '<' := by
    apply List.dropWhile_append_of_pos
    intro c hc
    simpa using h c hc
  rw [skipInfo?, skipInfo?, hd]

theorem skipInfo?_newline (s : Text) : skipInfo? ('\n' :: s) = some s := by
  simp [skipInfo?]

theorem skipInfo?_eq_none {info s : Text} (h : '\n' ∉ info.takeWhile (· ≠ '<'))
    (hs : ∀ d ∈ s.head?, d = '<') : skipInfo? (info ++ s) = none := by
  induction info with
  | nil =>
    cases s with
    | nil => simp [skipInfo?]
    | cons d s =>
      have hd : d = '<' := hs d (by simp)
      subst hd
      simp [skipInfo?]
  | cons c info ih =>
    by_cases hc : c = '<'
    · subst hc
      simp [skipInfo?]
    · simp only [List.takeWhile_cons, ne_eq, hc, not_false_eq_true, decide_true, if_true,
        List.mem_cons, not_or] at h
      have hn : (c != '\n' && c != '<') = true := by simp [hc, Ne.symm h.1]
      have hi := ih h.2
      simp only [skipInfo?, List.cons_append, List.dropWhile_cons, hn, if_true] at hi ⊢
      exact hi

theorem word_eq_of_tag {tag r : Text} (htag : ∀ c ∈ tag, c.isAlpha = true) :
    (tag ++ r).takeWhile (fun c => c != ' ' && c != '\t') =
      tag ++ r.takeWhile fun c => c != ' ' && c != '\t' := by
  apply List.takeWhile_append_of_pos
  intro c hc
  have ha := htag c hc
  simp only [Bool.and_eq_true, bne_iff_ne, ne_eq]
  constructor
  · rintro rfl
    exact absurd ha (by decide)
  · rintro rfl
    exact absurd ha (by decide)

theorem skipTagged?_append {k : DiagramKind} (htag : ∀ c ∈ k.tag, c.isAlpha = true) {b : CodeBlock}
    (hb : b.Sound) (s : Text) :
    skipTagged? k (b.info ++ '\n' :: s) = if k.tag == b.word then some s else none := by
  have hnl : '\n' ∉ k.tag := fun h => absurd (htag _ h) (by decide)
  cases hd : Text.dropStart? k.tag b.info with
  | none =>
    have hw : k.tag ≠ b.word := by
      intro he
      have hi : b.info = k.tag ++ b.info.dropWhile fun c => c != ' ' && c != '\t' := by
        rw [he, CodeBlock.word, List.takeWhile_append_dropWhile]
      rw [hi, Text.dropStart?_append] at hd
      cases hd
    simp [skipTagged?, Text.dropStart?_append_wall hnl, hd, hw]
  | some r =>
    have hi := Text.eq_append_of_dropStart? hd
    have hw : b.word = k.tag ++ r.takeWhile fun c => c != ' ' && c != '\t' := by
      rw [CodeBlock.word, hi, word_eq_of_tag htag]
    have hr : ∀ c ∈ r, c ≠ '\n' ∧ c ≠ '<' := fun c hc => hb.info c (by simp [hi, hc])
    cases r with
    | nil => simp [skipTagged?, Text.dropStart?_append_wall hnl, hd, hw]
    | cons c r =>
      have hmore : ∀ d ∈ r, d ≠ '\n' ∧ d ≠ '<' := fun d hd => hr d (List.mem_cons_of_mem c hd)
      by_cases hspace : c = ' '
      · subst hspace
        simp [skipTagged?, Text.dropStart?_append_wall hnl, hd, hw, skipInfo?_append hmore,
          skipInfo?_newline]
      · by_cases htab : c = '\t'
        · subst htab
          simp [skipTagged?, Text.dropStart?_append_wall hnl, hd, hw, skipInfo?_append hmore,
          skipInfo?_newline]
        · have hline := (hr c (by simp)).1
          simp [skipTagged?, Text.dropStart?_append_wall hnl, hd, hw, hspace, htab, hline]

/-- What a kind's pass skips is an info string. -/
theorem skipInfo?_of_skipTagged? {k : DiagramKind} (htag : ∀ c ∈ k.tag, c.isAlpha = true) {s r : Text}
    (h : skipTagged? k s = some r) : skipInfo? s = some r := by
  have hplain : ∀ c ∈ k.tag, c ≠ '\n' ∧ c ≠ '<' := by
    intro c hc
    have ha := htag c hc
    constructor
    · rintro rfl
      exact absurd ha (by decide)
    · rintro rfl
      exact absurd ha (by decide)
  have hblank : ∀ c s, c ≠ '\n' ∧ c ≠ '<' → skipInfo? (c :: s) = skipInfo? s := by
    intro c s hc
    have hline : ∀ d ∈ [c], d ≠ '\n' ∧ d ≠ '<' := by simpa using hc
    exact skipInfo?_append hline s
  unfold skipTagged? at h
  split at h
  · next rest hd =>
    rw [Text.eq_append_of_dropStart? hd, skipInfo?_append hplain, skipInfo?_newline, h]
  · next rest hd =>
    rw [Text.eq_append_of_dropStart? hd, skipInfo?_append hplain, hblank _ _ (by decide), h]
  · next rest hd =>
    rw [Text.eq_append_of_dropStart? hd, skipInfo?_append hplain, hblank _ _ (by decide), h]
  · cases h

theorem tag_isAlpha {k : DiagramKind} (hk : k ∈ DiagramKind.all) : ∀ c ∈ k.tag, c.isAlpha = true := by
  have hall : ∀ k ∈ DiagramKind.all, k.tag.all Char.isAlpha = true := by decide
  exact List.all_eq_true.mp (hall k hk)

theorem tagged_isPass (marker : Text) {k : DiagramKind} (hk : k ∈ DiagramKind.all) :
    IsPass marker (tagged marker k) fun b => k.tag == b.word := by
  refine ⟨skipTagged? k, rfl, ?_, fun b hb s => skipTagged?_append (tag_isAlpha hk) hb s⟩
  intro s hs
  cases h : skipTagged? k s with
  | none => rfl
  | some r =>
    rw [skipInfo?_of_skipTagged? (tag_isAlpha hk) h] at hs
    cases hs

theorem untagged_isPass (marker : Text) : IsPass marker (untagged marker) fun _ => true := by
  refine ⟨skipInfo?, rfl, fun s hs => hs, ?_⟩
  intro b hb s
  rw [skipInfo?_append hb.info, skipInfo?_newline]
  rfl

theorem openingTag_eq (marker : Text) :
    openingTag marker = '<' :: ("code class=\"" ++ marker ++ "\">") := rfl

/-- The opening tag opens a tag once, where it begins. -/
theorem notMem_tail_openingTag {marker : Text} (hm : '<' ∉ marker) :
    '<' ∉ "code class=\"" ++ marker ++ "\">" := by
  simp [hm]

theorem readBody?_append {body : Text} (h : ∀ c ∈ body, c ≠ '<' ∧ isBodyChar c = true) (s : Text) :
    readBody? (body ++ ("</code>" ++ s)) = some (body, s) := by
  have hbody : '<' ∉ body := fun hc => (h _ hc).1 rfl
  have hcut : Text.cut? "</code>" (body ++ ("</code>" ++ s)) = some (body, s) :=
    Text.cut?_of_notMem hbody s
  have hall : body.all isBodyChar = true := List.all_eq_true.mpr fun c hc => (h c hc).2
  rw [readBody?, hcut]
  simp [hall]

theorem head?_of_readCode? {marker : Text} {skip? : Text → Option Text} {s body r : Text}
    (h : readCode? marker skip? s = some (body, r)) : s.head? = some '<' := by
  obtain ⟨rest, hrest, _⟩ := Option.bind_eq_some_iff.mp h
  rw [Text.eq_append_of_dropStart? hrest]
  rfl

namespace IsPass

variable {marker : Text} {p : Pattern Text} {takes : CodeBlock → Bool}

theorem findsTags (h : IsPass marker p takes) : p.FindsTags := by
  obtain ⟨skip?, hread, _⟩ := h.reads
  intro s a r hr
  rw [hread] at hr
  exact head?_of_readCode? hr

theorem read?_eq_none_of_dropStart? (h : IsPass marker p takes) {s : Text}
    (hs : Text.dropStart? (openingTag marker) s = none) : p.read? s = none := by
  obtain ⟨skip?, hread, _⟩ := h.reads
  rw [hread, readCode?, hs]
  rfl

theorem read?_info (h : IsPass marker p takes) {b : CodeBlock} (hb : b.Sound) (s : Text) :
    p.read? (openingTag marker ++ (b.info ++ '\n' :: s)) = if takes b then readBody? s else none := by
  obtain ⟨skip?, hread, _, hskip⟩ := h.reads
  rw [hread, readCode?, Text.dropStart?_append, Option.bind_some, hskip b hb]
  split
  · rfl
  · rfl

theorem read?_block (h : IsPass marker p takes) {b : CodeBlock} (hb : b.Sound) (ht : takes b = true)
    (s : Text) : p.read? (b.write marker ++ s) = some (b.body, s) := by
  have hs := h.read?_info hb (b.body ++ ("</code>" ++ s))
  rw [ht, if_pos rfl, readBody?_append hb.body] at hs
  rw [← hs]
  congr 1
  simp [CodeBlock.write]

theorem quiet_block (h : IsPass marker p takes) (hm : '<' ∉ marker) {b : CodeBlock} (hb : b.Sound)
    (ht : takes b = false) : p.Quiet (b.write marker) := by
  have hinfo : '<' ∉ b.info := fun hc => (hb.info _ hc).2 rfl
  have hbody : '<' ∉ b.body := fun hc => (hb.body _ hc).1 rfl
  have hsplit : b.write marker =
      '<' :: ("code class=\"" ++ marker ++ "\">" ++ b.info ++ '\n' :: b.body) ++ "</code>" := by
    simp [CodeBlock.write, openingTag_eq]
  rw [hsplit]
  apply Pattern.Quiet.append
  · apply h.findsTags.quiet_tag
    · simp [hm, hinfo, hbody]
    · intro s
      have hs := h.read?_info hb (b.body ++ s)
      rw [ht, if_neg Bool.false_ne_true] at hs
      rw [← hs]
      congr 1
      simp [openingTag_eq]
  · apply h.findsTags.quiet_tag (t := "/code>") (by decide)
    intro s
    apply h.read?_eq_none_of_dropStart?
    simp [openingTag_eq, Text.dropStart?]

theorem quietGap (h : IsPass marker p takes) (hm : '<' ∉ marker) {gap : Text}
    (hg : HoldsCodeInline marker gap) : p.QuietGap gap := by
  obtain ⟨skip?, hread, hnone, _⟩ := h.reads
  intro u c v he s hs
  rw [hread, readCode?]
  cases hd : Text.dropStart? (openingTag marker) (c :: (v ++ s)) with
  | none => rfl
  | some x =>
    have hx : (c :: v) ++ s = openingTag marker ++ x := Text.eq_append_of_dropStart? hd
    rcases List.append_eq_append_iff.mp hx with ⟨w, hw, hsw⟩ | ⟨w, hw, hxw⟩
    · cases w with
      | nil =>
        have hline : '\n' ∉ ([] : Text).takeWhile (· ≠ '<') := List.not_mem_nil
        have hskip : skip? s = none := hnone s (skipInfo?_eq_none hline hs)
        rw [List.nil_append] at hsw
        rw [Option.bind_some, ← hsw, hskip]
        rfl
      | cons d w =>
        -- the opening tag would go on in the tag that follows, and open a second time there
        have hd : d = '<' := hs d (by rw [hsw]; rfl)
        have htail : "code class=\"" ++ marker ++ "\">" = v ++ d :: w := by
          rw [openingTag_eq, List.cons_append, List.cons.injEq] at hw
          exact hw.2
        apply absurd (notMem_tail_openingTag hm)
        rw [htail, hd]
        simp
    · have hline := hg u w (by rw [he, hw, List.append_assoc])
      rw [Option.bind_some, hxw, hnone _ (skipInfo?_eq_none hline hs)]
      rfl

end IsPass
end Markweave.Diagram
