import Mathlib.Data.List.TakeWhile
import Markweave.Markdown.Document
import Markweave.Proofs.Markdown.Reads

namespace Markweave.Markdown

variable {s : Text}

theorem toNat_ne_of_ne_backtick {c : Char} (h : c ≠ '`') : c.toNat ≠ 96 := by
  intro hc
  apply h
  apply Char.ext
  exact UInt32.toNat_inj.mp hc

namespace Inline

theorem codeUpTo?_of_notMem (h : '`' ∉ s) : codeUpTo? 1 0 (s ++ ['`']) = some (s, []) := by
  induction s with
  | nil => rfl
  | cons c s ih =>
    simp only [List.mem_cons, not_or] at h
    rw [List.cons_append, codeUpTo?, if_neg (toNat_ne_of_ne_backtick (Ne.symm h.1)), ih h.2]
    rfl

theorem flattenCode_of_line (h : ∀ c ∈ s, isLineEnd c = false) : flattenCode false s = s := by
  fun_induction flattenCode false s with
  | case1 => rfl
  | case2 => simp_all
  | case3 => simp_all
  | case4 => simp_all

theorem scan_length (ctx : Context) (st : Scan) (s : Text) : scan ctx st s.length s = st := by
  induction s with
  | nil => rfl
  | cons c s ih => exact ih

theorem trimCode_of_head (h : s.head? ≠ some ' ') : trimCode s = s := by
  rw [trimCode, if_neg]
  simp [h]

theorem runLength_backtick (hne : s ≠ []) (hbacktick : '`' ∉ s) (rest : Text) :
    Marker.runLength '`' ('`' :: (s ++ rest)) = 1 := by
  obtain ⟨c, s, rfl⟩ := List.exists_cons_of_ne_nil hne
  simp only [List.mem_cons, not_or] at hbacktick
  simp [Marker.runLength, Ne.symm hbacktick.1]

theorem read_code {ctx : Context} (hne : s ≠ []) (hspace : s.head? ≠ some ' ') (hbacktick : '`' ∉ s)
    (hline : ∀ c ∈ s, isLineEnd c = false) (htable : ctx.inTable = false) :
    read ctx ('`' :: (s ++ ['`'])) = [.code s] := by
  have hstep : step ctx .start '`' (s ++ ['`']) = ⟨Scan.start.push (.code s), (s ++ ['`']).length⟩ := by
    have hchoice : step ctx .start '`' (s ++ ['`']) = backticks ctx .start '`' (s ++ ['`']) := rfl
    rw [hchoice, backticks, runLength_backtick hne hbacktick, Nat.sub_self, List.drop_zero,
      codeUpTo?_of_notMem hbacktick, htable]
    dsimp only
    rw [flattenCode_of_line hline, trimCode_of_head hspace]
    rfl
  rw [read, scan, hstep]
  dsimp only
  rw [scan_length]
  rfl

end Inline

namespace BlockReader

variable {opts : Options}

theorem step_codeSpan (hne : s ≠ []) (hbacktick : '`' ∉ s) (hline : ∀ c ∈ s, isLineEnd c = false) :
    step opts .empty ('`' :: (s ++ ['`'])) =
      ({ Outline.empty with leaf := .paragraph none ('`' :: (s ++ ['`'])) 1 }, []) := by
  have hfence : Marker.fence? ('`' :: (s ++ ['`'])) = none := by
    rw [Marker.fence?, Inline.runLength_backtick hne hbacktick]
    rfl
  have hcut : cutLine ('`' :: (s ++ ['`'])) = ('`' :: (s ++ ['`']), [], []) := by
    have hall : ∀ c ∈ '`' :: (s ++ ['`']), (!isLineEnd c) = true := by
      simp only [List.mem_cons, List.mem_append, List.not_mem_nil, or_false]
      rintro c (rfl | hc | rfl)
      · rfl
      · simp [hline c hc]
      · rfl
    rw [cutLine, List.span_eq_takeWhile_dropWhile, List.takeWhile_eq_self_iff.mpr hall,
      List.dropWhile_eq_nil_iff.mpr hall]
  rw [step_backtick, hfence]
  dsimp only
  rw [startParagraph, hcut]
  dsimp only
  rw [List.append_nil]
  rfl

end BlockReader

/-- A line between two backticks is read as one paragraph of code. -/
theorem events_codeSpan {opts : Options} (hne : s ≠ []) (hspace : s.head? ≠ some ' ') (hbacktick : '`' ∉ s)
    (hline : ∀ c ∈ s, isLineEnd c = false) :
    events opts ('`' :: (s ++ ['`'])) = [.start .paragraph, .code s, .stop .paragraph] := by
  have hall : BlockReader.Reads opts .empty ('`' :: (s ++ ['`'])) _ [] :=
    .step (c := '`') (x := s ++ ['`']) (by simp) (BlockReader.step_codeSpan hne hbacktick hline) .done
  have hend : Leaf.dropFinalEnd ('`' :: (s ++ ['`'])) = '`' :: (s ++ ['`']) := by
    rw [Leaf.dropFinalEnd, ← List.cons_append, List.reverse_append]
    rfl
  rw [events, Document.read, hall.run_eq]
  simp [BlockReader.run, Document.events, Outline.finish, Outline.closeLeaf, Outline.empty, Leaf.toBlock?, hend,
    Outline.add, Block.eventsOfList, Block.events, TextReader.paragraph, TextReader.taskEvents, TextReader.events,
    Inline.read_code hne hspace hbacktick hline, Inline.eventsOfList, Inline.events, Event.within, Event.mergeText,
    Tag.stop]

end Markweave.Markdown
