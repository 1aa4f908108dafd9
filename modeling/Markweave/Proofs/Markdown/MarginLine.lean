import Markweave.Proofs.Markdown.PlainLine
import Markweave.Proofs.Text.Occurrence
import Markweave.Source.Fence

namespace Markweave.Markdown

open Marker

variable {opts : Options} {o : Outline} {c : Char} {s : Text}

/-- A line at the margin that ends the text above it. -/
structure EndsText (c : Char) (s : Text) : Prop where
  mark : c = '`' ∨ c = '<'
  text : ∀ entered anyNumber, BlockReader.endsText entered anyNumber (c :: s) = true

namespace EndsText

theorem margin (h : EndsText c s) : beginsAtMargin c = true := by
  rcases h.mark with rfl | rfl <;> rfl

theorem listMark? (h : EndsText c s) : listMark? (c :: s) = none := by
  rcases h.mark with rfl | rfl <;> rfl

theorem dropBlankLine? (h : EndsText c s) : dropBlankLine? (c :: s) = none := by
  rcases h.mark with rfl | rfl <;> rfl

theorem underline? (h : EndsText c s) : underline? (c :: s) = none := by
  rcases h.mark with rfl | rfl <;> rfl

theorem dashLine? (h : EndsText c s) : Table.dashLine? (.start (c :: s)) = none := by
  have hline : (cutLine (c :: s)).1 = (c :: s).takeWhile (!isLineEnd ·) := BlockReader.cutLine_fst _
  have hrest : (Cursor.start (c :: s)).rest = c :: s := rfl
  simp only [Table.dashLine?, skip_atMargin h.margin, hrest, hline]
  rcases h.mark with rfl | rfl <;> rfl

theorem atLineEnd (h : EndsText c s) : atLineEnd (c :: s) = false := by
  rcases h.mark with rfl | rfl <;> rfl

end EndsText

namespace BlockReader

theorem openFrames_of_endsText (h : EndsText c s) (n : Nat) (o : Outline) :
    openFrames opts n o (.start (c :: s)) = (o, .start (c :: s), false) := by
  cases n with
  | zero => rfl
  | succ n =>
    have hitem : listItem? (.start (c :: s)) = none := by simp [listItem?, Cursor.start, h.listMark?]
    rw [openFrames, skip_atMargin h.margin]
    simp [hitem, quoteMark?_atMargin h.margin]

theorem startBlock_of_endsText (opts : Options) (h : EndsText c s) (ho : Nested o.frames) : ∃ q : Outline,
    startBlock opts o (c :: s) = startLeaf opts q (.start (c :: s)) ∧ q.frames = [] ∧ q.leaf = o.leaf := by
  obtain ⟨henter, hframes⟩ := frames_leave_atMargin h.margin s ho
  refine ⟨{ (o.leave (o.frames.length - (o.enter (c :: s)).1)).finishList with emptyItem := false }, ?_, hframes, ?_⟩
  · rw [startBlock]
    dsimp only
    rw [henter, openFrames_of_endsText h]
    simp [Cursor.start, h.dropBlankLine?]
  · simp

theorem enterAll?_atMargin (hc : beginsAtMargin c = true) (ho : Nested o.frames) {inside : Cursor}
    (h : o.enterAll? (c :: s) = some inside) : inside = .start (c :: s) := by
  have henter := (frames_leave_atMargin hc s ho).1
  rw [Outline.enterAll?] at h
  dsimp only at h
  split at h
  · rw [← henter]
    exact (Option.some.inj h).symm
  · cases h

/-- The line begins a block outside all quotes and lists. -/
theorem step_of_endsText (opts : Options) (h : EndsText c s) (ho : o.InText) : ∃ q : Outline,
    step opts o (c :: s) = startLeaf opts q (.start (c :: s)) ∧ q.frames = [] ∧ q.leaf = .none := by
  have hskip := skip_atMargin h.margin s
  have hrest : (Cursor.start (c :: s)).rest = c :: s := rfl
  have hclose : ∃ q : Outline, startBlock opts o.closeLeaf (c :: s) = startLeaf opts q (.start (c :: s)) ∧
      q.frames = [] ∧ q.leaf = .none := by
    obtain ⟨q, hstart, hframes, hq⟩ := startBlock_of_endsText opts h (Outline.nested_closeLeaf ho.frames)
    exact ⟨q, hstart, hframes, hq.trans o.leaf_closeLeaf⟩
  have hkind := ho.leaf
  rw [step]
  cases hleaf : o.leaf with
  | none =>
    obtain ⟨q, hstart, hframes, hq⟩ := startBlock_of_endsText opts h ho.frames
    exact ⟨q, hstart, hframes, hq.trans hleaf⟩
  | fenced f indent info content => simp [hleaf, Leaf.isText] at hkind
  | html ending lines => simp [hleaf, Leaf.isText] at hkind
  | paragraph task content lines =>
    have htable : table? opts o content lines (c :: s) = none := by
      rw [table?]
      cases hc : o.enterAll? (c :: s) with
      | none => simp
      | some inside => simp [enterAll?_atMargin h.margin ho.frames hc, h.dashLine?]
    have henter := (frames_leave_atMargin h.margin s ho.frames).1
    dsimp only
    rw [continueParagraph, htable]
    dsimp only
    rw [henter, hskip]
    simpa [hrest, h.underline?, endsParagraph, h.text] using hclose
  | indented content blanks =>
    cases hc : o.enterAll? (c :: s) with
    | none => exact hclose
    | some inside =>
      obtain rfl := enterAll?_atMargin h.margin ho.frames hc
      dsimp only
      rw [continueIndented, hskip]
      simpa [hrest, h.atLineEnd] using hclose
  | table alignments head rows =>
    cases hc : o.enterAll? (c :: s) with
    | none => exact hclose
    | some inside =>
      obtain rfl := enterAll?_atMargin h.margin ho.frames hc
      have hplace : (Cursor.start (c :: s)).skipAll.rest = c :: s := by
        rcases h.mark with rfl | rfl <;> rfl
      dsimp only
      rw [continueTable, hplace]
      simpa [h.text] using hclose

end BlockReader

/-- A place on a line that is written out. -/
theorem SameLine.exists_suffix {line p : Text} (hends : ∀ d ∈ line, isLineEnd d = false)
    (h : SameLine (line ++ '\n' :: s) p) : ∃ v, v <:+ line ∧ p = v ++ '\n' :: s := by
  have hline : SameLine (line ++ '\n' :: s) ('\n' :: s) := ⟨line, rfl, hends⟩
  obtain ⟨v, rfl, _⟩ := hline.inner h
  obtain ⟨u, hu, _⟩ := h
  exact ⟨v, ⟨u, by simpa [← List.append_assoc] using hu.symm⟩, rfl⟩

namespace BlockReader

theorem fence?_backticks {info : Text} (hticks : '`' ∉ info) (hline : '\n' ∉ info) (s : Text) :
    fence? ('`' :: '`' :: '`' :: (info ++ '\n' :: s)) = some (⟨'`', 3⟩, info ++ '\n' :: s) := by
  have hrun : runLength '`' ('`' :: '`' :: '`' :: (info ++ '\n' :: s)) = 3 := by
    cases info with
    | nil => rfl
    | cons d info =>
      have hd : d ≠ '`' := fun he => hticks (he ▸ List.mem_cons_self)
      simp [runLength, hd]
  simp [fence?, hrun, cutFullLine_of_notMem hline, hticks]

/-- Code in a fence of three backticks that no frame is around. -/
def Coding (o : Outline) : Prop := o.frames = [] ∧ ∃ info content, o.leaf = .fenced ⟨'`', 3⟩ 0 info content

theorem step_fenceLine (opts : Options) {info : Text} (ho : o.InText) (hticks : '`' ∉ info) (hends : ∀ d ∈ info, isLineEnd d = false)
    (s : Text) : ∃ q, step opts o (Source.fence ++ (info ++ '\n' :: s)) = (q, s) ∧ Coding q := by
  have hline : SameLine (info ++ '\n' :: s) ('\n' :: s) := ⟨info, rfl, hends⟩
  have hfence := fence?_backticks hticks (fun hmem => absurd (hends _ hmem) (by decide)) s
  have htext : EndsText '`' ('`' :: '`' :: (info ++ '\n' :: s)) :=
    ⟨.inl rfl, fun _ _ => endsText_of_fence? (by rw [hfence]; rfl)⟩
  obtain ⟨q, hstep, hframes, -⟩ := step_of_endsText opts htext ho
  have hbelow := (hline.inner (.dropWhile (fun _ => isLineEnd_of_isInlineBlank) _)).cutFullLine_below
  have hstart : step opts o (Source.fence ++ (info ++ '\n' :: s)) = startFenced q ⟨'`', 3⟩ 0 (info ++ '\n' :: s) := by
    refine hstep.trans ?_
    rw [startLeaf_backtick, hfence]
  refine ⟨_, hstart.trans (Prod.ext rfl hbelow), hframes, _, _, rfl⟩

/-- A comment on a line of its own is a block of HTML that ends with the line. -/
theorem step_commentLine (opts : Options) {line : Text} (ho : o.InText) (hends : ∀ d ∈ line, isLineEnd d = false)
    (hopen : "<!--".toList <+: line) (hclose : "-->".toList <:+: line) (s : Text) :
    ∃ q, step opts o (line ++ '\n' :: s) = (q, s) ∧ q.InText := by
  obtain ⟨r, rfl⟩ : ∃ r, line = '<' :: r := ⟨_, hopen.choose_spec.symm⟩
  have hopens : RawHtml.opensComment ('<' :: (r ++ '\n' :: s)) = true :=
    Text.startsWith_iff_prefix.mpr (hopen.trans (List.prefix_append ('<' :: r) ('\n' :: s)))
  have htext : EndsText '<' (r ++ '\n' :: s) := by
    refine ⟨.inr rfl, fun _ _ => ?_⟩
    rw [endsText, Bool.or_eq_true]
    exact .inr hopens
  obtain ⟨q, hstep, hframes, -⟩ := step_of_endsText opts htext ho
  -- The line that opens the block closes it too.
  let html : Outline := { q with leaf := .html .comment [⟨[], unifyLine ('<' :: r ++ ['\n'])⟩] }
  have hcloses : Text.contains "-->" ('<' :: r ++ ['\n']) = true :=
    Text.contains_iff_infix.mpr (hclose.trans (List.prefix_append _ _).isInfix)
  have hcut : cutFullLine ('<' :: (r ++ '\n' :: s)) = ('<' :: r ++ ['\n'], s) :=
    cutFullLine_of_notMem (fun hmem => absurd (hends _ hmem) (by decide)) s
  have hstart : startLeaf opts q (.start ('<' :: (r ++ '\n' :: s))) = (html.closeLeaf, s) := by
    have hskip := skip_atMargin htext.margin (r ++ '\n' :: s) 4
    have hplace : (Cursor.start ('<' :: (r ++ '\n' :: s))).rest = '<' :: (r ++ '\n' :: s) := rfl
    have hblock : RawHtml.blockStart? ('<' :: (r ++ '\n' :: s)) = some .comment := by
      rw [RawHtml.blockStart?, if_pos hopens]
    simp only [startLeaf, hskip, hplace, hblock, addHtml, hcut, hcloses]
    rfl
  refine ⟨html.closeLeaf, hstep.trans hstart, Outline.nested_closeLeaf ?_, ?_⟩
  · exact hframes ▸ Nested.nil
  · rw [Outline.leaf_closeLeaf]
    rfl

theorem replicate_prefix_of_runLength {mark : Char} {n : Nat} (h : n ≤ runLength mark s) :
    List.replicate n mark <+: s := by
  have hrun : s.takeWhile (· == mark) = List.replicate (runLength mark s) mark := by
    refine List.eq_replicate_iff.mpr ⟨rfl, fun d hd => ?_⟩
    exact eq_of_beq (List.mem_takeWhile_imp (p := (· == mark)) hd)
  obtain ⟨m, hm⟩ := Nat.exists_eq_add_of_le h
  refine .trans ?_ (List.takeWhile_prefix (· == mark))
  rw [hrun, hm, ← List.replicate_append_replicate]
  exact List.prefix_append _ _

theorem prefix_of_fence? (h : (fence? s).isSome = true) : Source.fence <+: s ∨ "~~~".toList <+: s := by
  obtain ⟨mark, t, rfl, hmark⟩ := fence?_head h
  have hlength : 3 ≤ runLength mark (mark :: t) := by
    rw [fence?] at h
    by_contra hshort
    simp [Nat.lt_of_not_le hshort] at h
  rcases hmark with rfl | rfl
  · exact .inl (replicate_prefix_of_runLength hlength)
  · exact .inr (replicate_prefix_of_runLength hlength)

theorem step_codeLine (opts : Options) {line : Text} (ho : Coding o) (hends : ∀ d ∈ line, isLineEnd d = false)
    (hfence : ¬ Source.fence <:+: line) (s : Text) : ∃ q, step opts o (line ++ '\n' :: s) = (q, s) ∧ Coding q := by
  obtain ⟨hframes, info, content, hleaf⟩ := ho
  have hline : SameLine (line ++ '\n' :: s) ('\n' :: s) := ⟨line, rfl, hends⟩
  have hplace := Cursor.sameLine_skip (.start (line ++ '\n' :: s)) 0
  have hmark := hplace.trans (Cursor.sameLine_skip ((Cursor.start (line ++ '\n' :: s)).skip 0).2 (4 - 0))
  have hnone : fenceEnd? ⟨'`', 3⟩ (((Cursor.start (line ++ '\n' :: s)).skip 0).2.skip (4 - 0)).2.rest = none := by
    obtain ⟨v, hv, heq⟩ := hmark.exists_suffix hends
    rw [heq, fenceEnd?, if_pos]
    by_contra hrun
    have hprefix : Source.fence <+: v ++ '\n' :: s := replicate_prefix_of_runLength (Nat.le_of_not_lt hrun)
    exact hfence (((Text.prefix_append_cons_iff (by decide)).mp hprefix).isInfix.trans hv.isInfix)
  have hbelow := (hline.inner hplace).cutFullLine_below
  rw [step_fenced hframes hleaf, continueFenced]
  dsimp only
  rw [hnone, ite_self]
  exact ⟨_, Prod.ext rfl hbelow, hframes, _, _, rfl⟩

/-- Behind code the reader is outside all frames. -/
theorem step_fenceEnd (opts : Options) (ho : Coding o) (s : Text) :
    ∃ q, step opts o (Source.fence ++ '\n' :: s) = (q, s) ∧ q.InText := by
  obtain ⟨hframes, info, content, hleaf⟩ := ho
  refine ⟨o.closeLeaf, step_closeFence hframes hleaf (.inr rfl), Outline.nested_closeLeaf ?_, ?_⟩
  · exact hframes ▸ Nested.nil
  · rw [Outline.leaf_closeLeaf]
    rfl

end BlockReader
end Markweave.Markdown
