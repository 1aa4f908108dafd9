import Mathlib.Data.List.TakeDrop
import Markweave.Markdown.BlockReader
import Markweave.Proofs.Text.Cut
import Markweave.Proofs.Text.Lines

namespace Markweave.Markdown.BlockReader

variable {opts : Options} {o o' o'' : Outline} {s s' s'' x : Text}

/-- The reader comes from one outline and place to another. -/
inductive Reads (opts : Options) : Outline → Text → Outline → Text → Prop
  | done {o : Outline} {s : Text} : Reads opts o s o s
  | step {o o' o'' : Outline} {c : Char} {x s s' s'' : Text} (hs : s = c :: (x ++ s'))
      (first : step opts o s = (o', s')) (more : Reads opts o' s' o'' s'') : Reads opts o s o'' s''

namespace Reads

theorem trans (h : Reads opts o s o' s') (h' : Reads opts o' s' o'' s'') : Reads opts o s o'' s'' := by
  induction h with
  | done => exact h'
  | step hs first _ ih => exact .step hs first (ih h')

theorem suffix (h : Reads opts o s o' s') : s' <:+ s := by
  induction h with
  | done => exact List.suffix_refl _
  | @step o _ _ c x s _ _ hs _ _ ih => exact ih.trans ⟨c :: x, hs.symm⟩

theorem length_lt {c : Char} (hs : s = c :: (x ++ s')) (h : Reads opts o' s' o'' s'') : s''.length < s.length := by
  have hlength := h.suffix.length_le
  rw [hs, List.length_cons, List.length_append]
  omega

/-- On the way to a later place the reader comes by an earlier one. -/
theorem resume (h : Reads opts o s o' s') (hlater : Reads opts o s o'' s'') (hlength : s''.length ≤ s'.length) :
    Reads opts o' s' o'' s'' := by
  induction h with
  | done => exact hlater
  | step hs first more ih =>
    cases hlater with
    | done => exact absurd (length_lt hs more) (Nat.not_lt.mpr hlength)
    | step hs' first' more' =>
      obtain ⟨rfl, rfl⟩ := Prod.mk.inj (first.symm.trans first')
      exact ih more' hlength

end Reads

theorem run_length_append (x s : Text) : run opts o x.length (x ++ s) = run opts o 0 s := by
  induction x with
  | nil => rfl
  | cons c x ih => exact ih

theorem run_of_step {c : Char} (hs : s = c :: (x ++ s')) (h : step opts o s = (o', s')) :
    run opts o 0 s = run opts o' 0 s' := by
  subst hs
  have hused : (x ++ s').length - s'.length = x.length := by simp
  rw [run, h]
  dsimp only
  rw [hused, run_length_append]

theorem Reads.run_eq (h : Reads opts o s o' s') : run opts o 0 s = run opts o' 0 s' := by
  induction h with
  | done => rfl
  | step hs first _ ih => rw [run_of_step hs first, ih]

/-- A step that takes one line. -/
theorem reads_line (line : Text) (h : step opts o (line ++ '\n' :: s) = (q, s)) :
    Reads opts o (line ++ '\n' :: s) q s := by
  cases line with
  | nil => exact .step (x := []) rfl h .done
  | cons c line => exact .step (c := c) (x := line ++ ['\n']) (by simp) h .done

section Fenced

variable {f : Marker.Fence} {indent : Nat} {info content : Text}

theorem enterAll?_of_frames_nil (h : o.frames = []) (s : Text) : o.enterAll? s = some (.start s) := by
  simp [Outline.enterAll?, Outline.enter, h, Frame.enterAll]

theorem step_fenced (hframes : o.frames = []) (hleaf : o.leaf = .fenced f indent info content) (s : Text) :
    step opts o s = continueFenced o f indent info content (.start s) := by
  rw [step, hleaf, enterAll?_of_frames_nil hframes]

theorem skip_start_of_head {c : Char} (hc : c ≠ ' ' ∧ c ≠ '\t') (n : Nat) (s : Text) :
    (Cursor.start (c :: s)).skip n = (n, .start (c :: s)) := by
  cases n with
  | zero => rfl
  | succ n =>
    simp only [Cursor.skip, Cursor.start, Nat.zero_min, Nat.sub_zero]
    rw [Cursor.skipFrom]
    · intro _ _ _ he
      exact hc.1 (List.cons.inj he).1
    · intro _ _ _ he
      exact hc.2 (List.cons.inj he).1

theorem cutLine_fst (s : Text) : (cutLine s).1 = s.takeWhile (!isLineEnd ·) := by
  rw [cutLine, List.span_eq_takeWhile_dropWhile]
  dsimp only
  split <;> rfl

theorem blockStart?_of_head_ne {c : Char} (hc : c ≠ '<') (s : Text) : RawHtml.blockStart? (c :: s) = none := by
  have hnone : Text.dropStart? "<!--" (c :: s) = none := Text.dropStart?_of_head_ne (Ne.symm hc)
  have hopen : RawHtml.opensComment (c :: s) = false := by
    rw [RawHtml.opensComment, Text.startsWith, hnone]
    rfl
  have htag : ∀ p : Char → Bool, RawHtml.tag? ((c :: s).takeWhile p) = none := by
    intro p
    rw [List.takeWhile_cons]
    split
    · simp [RawHtml.tag?, hc]
    · rfl
  have hline : (cutLine (c :: s)).1 = (c :: s).takeWhile (!isLineEnd ·) := cutLine_fst _
  rw [RawHtml.blockStart?, hopen, if_neg Bool.false_ne_true]
  dsimp only
  rw [hline, htag]
  rfl

theorem cutFullLine_of_notMem {line : Text} (h : '\n' ∉ line) (s : Text) :
    cutFullLine (line ++ '\n' :: s) = (line ++ ['\n'], s) := by
  have hplain : ∀ c ∈ line, (c != '\n') = true := by
    rintro c hc
    rw [bne_iff_ne]
    rintro rfl
    exact h hc
  rw [cutFullLine, List.span_eq_takeWhile_dropWhile, List.takeWhile_append_of_pos hplain,
    List.dropWhile_append_of_pos hplain]
  simp

theorem unifyLine_of_notMem {line : Text} (h : '\r' ∉ line) : unifyLine (line ++ ['\n']) = line ++ ['\n'] := by
  rw [unifyLine]
  split
  · next c s he =>
    rw [List.reverse_append] at he
    have hmem : '\r' ∈ line.reverse := by simp_all
    exact absurd (List.mem_reverse.mp hmem) h
  · rfl

theorem fenceEnd?_of_head_ne (hf : 0 < f.length) {c : Char} (hc : c ≠ f.mark) (s : Text) :
    Marker.fenceEnd? f (c :: s) = none := by
  have hrun : Marker.runLength f.mark (c :: s) = 0 := by simp [Marker.runLength, hc]
  rw [Marker.fenceEnd?, hrun, if_pos hf]

/-- A line that is not indented and does not close the fence is added to the code. -/
theorem step_fenced_of_head (hframes : o.frames = []) (hleaf : o.leaf = .fenced f indent info content) {c : Char}
    (hc : c ≠ ' ' ∧ c ≠ '\t') (hf : 0 < f.length) (hmark : c ≠ f.mark) (s : Text) :
    step opts o (c :: s) =
      ({ o with leaf := .fenced f indent info (content ++ unifyLine (cutFullLine (c :: s)).1) },
        (cutFullLine (c :: s)).2) := by
  have hskip := skip_start_of_head hc
  have hend : (if 4 - indent ≠ 0 then Marker.fenceEnd? f (Cursor.start (c :: s)).rest else none) = none := by
    split
    · exact fenceEnd?_of_head_ne hf hmark s
    · rfl
  rw [step_fenced hframes hleaf, continueFenced, hskip]
  dsimp only
  rw [hskip]
  dsimp only
  rw [hend]
  simp [Cursor.indentation, Cursor.start]

/-- A line of code that neither is indented nor closes the fence. -/
structure IsCodeLine (f : Marker.Fence) (line : Text) : Prop where
  head : ∃ c rest, line = c :: rest ∧ c ≠ ' ' ∧ c ≠ '\t' ∧ c ≠ f.mark
  newline : '\n' ∉ line
  carriageReturn : '\r' ∉ line

theorem step_fenced_line (hframes : o.frames = []) (hleaf : o.leaf = .fenced f indent info content)
    (hf : 0 < f.length) {line : Text} (hline : IsCodeLine f line) (s : Text) :
    step opts o (line ++ '\n' :: s) =
      ({ o with leaf := .fenced f indent info (content ++ (line ++ ['\n'])) }, s) := by
  obtain ⟨⟨c, rest, rfl, hspace, htab, hmark⟩, hnewline, hreturn⟩ := hline
  have hcut := cutFullLine_of_notMem hnewline s
  rw [List.cons_append] at hcut ⊢
  rw [step_fenced_of_head hframes hleaf ⟨hspace, htab⟩ hf hmark, hcut, unifyLine_of_notMem hreturn]

theorem reads_fenced_lines (hframes : o.frames = []) (hleaf : o.leaf = .fenced f indent info content)
    (hf : 0 < f.length) {lines : List Text} (hlines : ∀ l ∈ lines, IsCodeLine f l)
    (s : Text) :
    Reads opts o (lines.flatMap (· ++ ['\n']) ++ s)
      { o with leaf := .fenced f indent info (content ++ lines.flatMap (· ++ ['\n'])) } s := by
  induction lines generalizing o content with
  | nil =>
    rw [List.flatMap_nil, List.append_nil, ← hleaf]
    exact .done
  | cons line more ih =>
    rw [List.forall_mem_cons] at hlines
    have hfirst : step opts o _ = _ := step_fenced_line hframes hleaf hf hlines.1 (more.flatMap (· ++ ['\n']) ++ s)
    have hmore := ih (o := { o with leaf := .fenced f indent info (content ++ (line ++ ['\n'])) }) hframes rfl hlines.2
    simpa [Text.lines_cons] using (reads_line line hfirst).trans hmore

end Fenced

/-- A block that begins with a backtick is fenced code or a paragraph. -/
theorem startLeaf_backtick (opts : Options) (o : Outline) (s : Text) : startLeaf opts o (.start ('`' :: s)) =
    match Marker.fence? ('`' :: s) with
    | some (f, behind) => startFenced o f 0 behind
    | none => startParagraph o ('`' :: s) := by
  have hskip := skip_start_of_head (c := '`') (by decide)
  -- None of the other blocks begins with a backtick.
  have hhtml : RawHtml.blockStart? ('`' :: s) = none := blockStart?_of_head_ne (by decide) s
  have hrule : Marker.thematicBreak? ('`' :: s) = none := by rfl
  have hheading : Marker.headingLevel? ('`' :: s) = none := by rfl
  have hdefinition : definition? opts o ('`' :: s) = none := by rfl
  have hrest : (Cursor.start ('`' :: s)).rest = '`' :: s := rfl
  cases hopen : Marker.fence? ('`' :: s) <;>
    simp only [startLeaf, hskip, hrest, hhtml, hrule, hheading, hdefinition, hopen, Nat.sub_self]

/-- A text that begins with a backtick begins with a fence or with a paragraph. -/
theorem step_backtick (s : Text) :
    step opts .empty ('`' :: s) =
      match Marker.fence? ('`' :: s) with
      | some (f, behind) => startFenced .empty f 0 behind
      | none => startParagraph .empty ('`' :: s) := by
  have hskip := skip_start_of_head (c := '`') (by decide)
  have hframes : openFrames opts ('`' :: s).length .empty (.start ('`' :: s)) = (.empty, .start ('`' :: s), false) := by
    rw [List.length_cons, openFrames, hskip]
    rfl
  have hleaf := startLeaf_backtick opts .empty s
  simp only [step, Outline.empty, startBlock, Outline.enter, List.reverse_nil, Frame.enterAll, List.length_nil,
    Nat.sub_self, Outline.leave] at hframes hleaf ⊢
  rw [hframes]
  exact hleaf

theorem step_openFence (s : Text) : step opts .empty ('`' :: '`' :: '`' :: '\n' :: s) =
    ({ Outline.empty with leaf := .fenced ⟨'`', 3⟩ 0 [] [] }, s) := by
  have hcut : cutFullLine ('\n' :: s) = (['\n'], s) := by
    simpa using cutFullLine_of_notMem (List.not_mem_nil (a := '\n')) s
  have hfence : Marker.fence? ('`' :: '`' :: '`' :: '\n' :: s) = some (⟨'`', 3⟩, '\n' :: s) := by
    have hrun : Marker.runLength '`' ('`' :: '`' :: '`' :: '\n' :: s) = 3 := rfl
    simp [Marker.fence?, hrun, hcut]
  have hdrop : ('\n' :: s).dropWhile isInlineBlank = '\n' :: s := rfl
  rw [step_backtick, hfence]
  dsimp only
  rw [startFenced, hdrop, hcut]
  rfl

theorem step_closeFence {o : Outline} {info content ending : Text} (hframes : o.frames = [])
    (hleaf : o.leaf = .fenced ⟨'`', 3⟩ 0 info content) (hending : ending = [] ∧ s = [] ∨ ending = '\n' :: s) :
    step opts o ('`' :: '`' :: '`' :: ending) = (o.closeLeaf, s) := by
  have hend : Marker.fenceEnd? ⟨'`', 3⟩ ('`' :: '`' :: '`' :: ending) = some s := by
    rcases hending with ⟨rfl, rfl⟩ | rfl <;> rfl
  have hskip := skip_start_of_head (c := '`') (by decide)
  rw [step_fenced hframes hleaf, continueFenced, hskip]
  dsimp only
  rw [hskip]
  dsimp only
  rw [if_pos (by decide), Cursor.start, hend]

/-- The outline within a fence at the beginning of a text. -/
def coding (content : Text) : Outline := { Outline.empty with leaf := .fenced ⟨'`', 3⟩ 0 [] content }

/-- A text that is one piece of fenced code. -/
theorem run_fenced {lines : List Text} (hlines : ∀ l ∈ lines, IsCodeLine ⟨'`', 3⟩ l) {ending : Text}
    (hending : ending = [] ∨ ending = ['\n']) :
    run opts .empty 0 ('`' :: '`' :: '`' :: '\n' :: (lines.flatMap (· ++ ['\n']) ++ '`' :: '`' :: '`' :: ending)) =
      { Outline.empty with blocks := [.code (.fenced []) (lines.flatMap (· ++ ['\n']))] } := by
  have hopened : (coding []).leaf = .fenced ⟨'`', 3⟩ 0 [] [] := rfl
  have hlines : Reads opts (coding []) (lines.flatMap (· ++ ['\n']) ++ '`' :: '`' :: '`' :: ending)
      (coding (lines.flatMap (· ++ ['\n']))) ('`' :: '`' :: '`' :: ending) :=
    reads_fenced_lines rfl hopened (by decide) hlines _
  have hclose : step opts (coding (lines.flatMap (· ++ ['\n']))) ('`' :: '`' :: '`' :: ending) = (_, []) :=
    step_closeFence rfl rfl (by simpa using hending)
  have hall : Reads opts .empty _ (coding (lines.flatMap (· ++ ['\n']))).closeLeaf [] :=
    .step (x := ['`', '`', '\n']) rfl (step_openFence _)
      (hlines.trans (.step (c := '`') (x := '`' :: '`' :: ending) (by simp) hclose .done))
  exact hall.run_eq.trans rfl

end Markweave.Markdown.BlockReader
