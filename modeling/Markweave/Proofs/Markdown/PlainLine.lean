import Markweave.Proofs.Markdown.Frames

namespace Markweave.Markdown

open Marker

variable {opts : Options} {o : Outline} {s t p : Text}

/-- A place on a line is as far from its end as the line says. -/
theorem SameLine.inner (h : SameLine s ('\n' :: t)) (hp : SameLine s p) : SameLine p ('\n' :: t) := by
  obtain ⟨u, rfl, hu⟩ := h
  obtain ⟨v, hv, hends⟩ := hp
  rcases List.append_eq_append_iff.mp hv with ⟨a, rfl, ha⟩ | ⟨a, rfl, rfl⟩
  · cases a with
    | nil => exact ⟨[], ha.symm, by simp⟩
    | cons d a =>
      obtain ⟨rfl, _⟩ := List.cons.inj ha
      exact absurd (hends '\n' (by simp)) (by decide)
  · exact ⟨a, rfl, fun c hc => hu c (List.mem_append_right v hc)⟩

namespace SameLine

theorem cutLine_below (h : SameLine s ('\n' :: t)) : (cutLine s).2.2 = t := by
  rw [h.cutLine_eq]
  rfl

theorem cutFullLine_below (h : SameLine s ('\n' :: t)) : (cutFullLine s).2 = t := by
  obtain ⟨u, rfl, hu⟩ := h
  have hline : '\n' ∉ u := fun hmem => absurd (hu '\n' hmem) (by decide)
  rw [BlockReader.cutFullLine_of_notMem hline]

theorem newline_mem_line (h : SameLine s ('\n' :: t)) : '\n' ∈ s := h.suffix.subset List.mem_cons_self

theorem dropLineEnd?_below {r : Text} (h : SameLine s ('\n' :: t)) (hr : dropLineEnd? s = some r) : r = t :=
  (below_of_dropLineEnd? (List.ne_nil_of_mem h.newline_mem_line) hr).symm.trans h.cutLine_below

theorem dropBlankLine?_below {r : Text} (h : SameLine s ('\n' :: t)) (hr : dropBlankLine? s = some r) : r = t :=
  (below_of_dropBlankLine? h.newline_mem_line hr).symm.trans h.cutLine_below

end SameLine

/-- A block of text: no fence below is hidden in it. -/
def Leaf.isText : Leaf → Bool
  | fenced .. => false
  | html .. => false
  | _ => true

/-- Outside code in a fence, and outside raw HTML. -/
structure Outline.InText (o : Outline) : Prop where
  frames : Nested o.frames
  leaf : o.leaf.isText = true

theorem Outline.inText_closeLeaf (h : o.InText) : o.closeLeaf.InText :=
  ⟨nested_closeLeaf h.frames, by rw [leaf_closeLeaf]; rfl⟩

/-- At no place on the line something begins that may go on over the next fence. -/
structure PlainLine (opts : Options) (s t : Text) : Prop where
  ends : SameLine s ('\n' :: t)
  html : ∀ p, SameLine s p → RawHtml.blockStart? p = none
  fence : ∀ p, SameLine s p → fence? p = none
  definition : ∀ p o, SameLine s p → BlockReader.definition? opts o p = none

theorem PlainLine.inner (h : PlainLine opts s t) (hp : SameLine s p) : PlainLine opts p t where
  ends := h.ends.inner hp
  html q hq := h.html q (hp.trans hq)
  fence q hq := h.fence q (hp.trans hq)
  definition q o hq := h.definition q o (hp.trans hq)

namespace BlockReader

/-- A step that takes one line of text. -/
structure TakesLine (t : Text) (after : Outline × Text) : Prop where
  rest : after.2 = t
  inText : after.1.InText

theorem sameLine_headingMarks (s : Text) : SameLine s (s.dropWhile (· == '#')) := by
  refine .dropWhile ?_ s
  intro c hc
  obtain rfl := eq_of_beq hc
  rfl

theorem takesLine_startHeading {level : HeadingLevel} (h : o.InText) (hline : SameLine s ('\n' :: t))
    (hl : headingLevel? s = some level) : TakesLine t (startHeading o level s) := by
  have hmarks := hline.inner (sameLine_headingMarks s)
  rw [startHeading, (drop_of_headingLevel? hl).1]
  dsimp only
  have hadd : ∀ b, (o.add b).InText := fun b => ⟨Outline.nested_add h.frames b, by rw [Outline.leaf_add]; exact h.leaf⟩
  split
  · next rest hrest => exact ⟨hmarks.dropLineEnd?_below hrest, hadd _⟩
  · exact ⟨(hmarks.inner (.dropWhile (fun _ => isLineEnd_of_isInlineBlank) _)).cutFullLine_below, hadd _⟩

theorem takesLine_startLeaf {c : Cursor} (h : o.InText) (hplain : PlainLine opts c.rest t) :
    TakesLine t (startLeaf opts o c) := by
  have hline := Cursor.sameLine_skip c 4
  rw [startLeaf]
  split
  · next code hskip =>
    rw [hskip] at hline
    exact ⟨(hplain.inner hline).ends.cutFullLine_below, h.frames, rfl⟩
  · next missing place _ hskip =>
    rw [hskip] at hline
    have hplace := hplain.inner hline
    simp only [hplace.html _ (.refl _), hplace.fence _ (.refl _), hplace.definition _ _ (.refl _)]
    cases hbreak : thematicBreak? place.rest with
    | some rest =>
      refine ⟨(below_of_thematicBreak? hbreak).symm.trans hplace.ends.cutLine_below, ?_⟩
      exact ⟨Outline.nested_add h.frames .rule, by rw [Outline.leaf_add]; exact h.leaf⟩
    | none =>
      cases hl : headingLevel? place.rest with
      | some level => exact takesLine_startHeading h hplace.ends hl
      | none => exact ⟨hplace.ends.cutLine_below, h.frames, rfl⟩

theorem takesLine_startBlock (h : o.InText) (hplain : PlainLine opts s t) : TakesLine t (startBlock opts o s) := by
  have hinside := o.sameLine_enter s
  have hmem := (hplain.inner hinside).ends.newline_mem_line
  have hleave : Nested (o.leave (o.frames.length - (o.enter s).1)).frames := Outline.nested_leave _ h.frames
  have hnested := nested_openFrames opts s.length hleave (o.enter s).2
  have hleaf := leaf_openFrames opts s.length (o.leave (o.frames.length - (o.enter s).1)) (o.enter s).2
  obtain ⟨_, hline, hbelow⟩ := openFrames_append opts (m := s.length) (n := s.length) hmem
    hinside.suffix.length_le hinside.suffix.length_le (o.leave (o.frames.length - (o.enter s).1)) []
  rw [startBlock]
  dsimp only
  generalize openFrames opts s.length (o.leave (o.frames.length - (o.enter s).1)) (o.enter s).2 = opened
    at hnested hleaf hline hbelow
  obtain ⟨inner, c, done⟩ := opened
  have hinner : inner.InText := ⟨hnested, by rw [hleaf, Outline.leaf_leave]; exact h.leaf⟩
  cases done with
  | true =>
    obtain ⟨p, hp, hdrop⟩ := hbelow rfl
    exact ⟨(hplain.inner (hinside.trans hp)).ends.dropBlankLine?_below hdrop, hinner⟩
  | false =>
    have hc := hplain.inner (hinside.trans (hline rfl))
    dsimp only
    cases hdrop : dropBlankLine? c.rest with
    | some rest =>
      refine ⟨hc.ends.dropBlankLine?_below hdrop, Outline.nested_blankLine hinner.frames, ?_⟩
      rw [Outline.leaf_blankLine]
      exact hinner.leaf
    | none =>
      refine takesLine_startLeaf ⟨(Outline.nested_finishList hinner.frames).1, ?_⟩ hc
      rw [Outline.leaf_finishList]
      exact hinner.leaf

theorem takesLine_continueParagraph {task : Option Bool} {content : Text} {lines : Nat} (h : o.InText)
    (hplain : PlainLine opts s t) : TakesLine t (continueParagraph opts o task content lines s) := by
  have hinside := o.sameLine_enter s
  have hplace := hplain.inner (hinside.trans (Cursor.sameLine_skip (o.enter s).2 4))
  rw [continueParagraph]
  cases htable : table? opts o content lines s with
  | some found =>
    obtain ⟨leaf, rest⟩ := found
    obtain ⟨⟨alignments, head, rfl⟩, hbelow⟩ := table?_cases htable
    exact ⟨hbelow.symm.trans hplain.ends.cutLine_below, h.frames, rfl⟩
  | none =>
    dsimp only
    split
    · next level rest hunderline =>
      split at hunderline
      · have hbelow := below_of_underline? hplace.ends.newline_mem_line hunderline
        refine ⟨hbelow.symm.trans hplace.ends.cutLine_below, ?_⟩
        exact ⟨Outline.nested_add (o := { o with leaf := .none }) h.frames _, by rw [Outline.leaf_add]; rfl⟩
      · cases hunderline
    · split
      · exact takesLine_startBlock (Outline.inText_closeLeaf h) hplain
      · exact ⟨(hplain.inner hinside).ends.cutLine_below, h.frames, rfl⟩

theorem takesLine_continueIndented {content blanks : Text} {c : Cursor} (h : o.InText) (hplain : PlainLine opts s t)
    (hc : SameLine s c.rest) : TakesLine t (continueIndented opts o content blanks c s) := by
  have hplace := hplain.inner (hc.trans (Cursor.sameLine_skip c 4))
  rw [continueIndented]
  dsimp only
  split
  · exact takesLine_startBlock (Outline.inText_closeLeaf h) hplain
  · split
    · exact ⟨hplace.ends.cutFullLine_below, h.frames, rfl⟩
    · exact ⟨hplace.ends.cutFullLine_below, h.frames, rfl⟩

theorem sameLine_skipAll (c : Cursor) : SameLine c.rest c.skipAll.rest := by
  refine .dropWhile ?_ c.rest
  intro d hd
  rw [Bool.or_eq_true, beq_iff_eq, beq_iff_eq] at hd
  rcases hd with rfl | rfl <;> rfl

theorem takesLine_continueTable {alignments : List Alignment} {head : List Text} {rows : List (List Text)} {c : Cursor}
    (h : o.InText) (hplain : PlainLine opts s t) (hc : SameLine s c.rest) :
    TakesLine t (continueTable opts o alignments head rows c s) := by
  rw [continueTable]
  dsimp only
  split
  · exact takesLine_startBlock (Outline.inText_closeLeaf h) hplain
  · exact ⟨(hplain.inner (hc.trans (sameLine_skipAll c))).ends.cutLine_below, h.frames, rfl⟩

/-- A plain line is taken alone, and the reader is still outside code and raw HTML. -/
theorem takesLine_step (h : o.InText) (hplain : PlainLine opts s t) : TakesLine t (step opts o s) := by
  have hblock := takesLine_startBlock h hplain
  have hclose := takesLine_startBlock (Outline.inText_closeLeaf h) hplain
  have hleaf := h.leaf
  rw [step]
  cases hkind : o.leaf with
  | none => exact hblock
  | paragraph task content lines => exact takesLine_continueParagraph h hplain
  | fenced f indent info content => simp [hkind, Leaf.isText] at hleaf
  | html ending lines => simp [hkind, Leaf.isText] at hleaf
  | indented content blanks =>
    cases hc : o.enterAll? s with
    | none => exact hclose
    | some c => exact takesLine_continueIndented h hplain (sameLine_enterAll? hc)
  | table alignments head rows =>
    cases hc : o.enterAll? s with
    | none => exact hclose
    | some c => exact takesLine_continueTable h hplain (sameLine_enterAll? hc)

end BlockReader
end Markweave.Markdown
