import Markweave.Proofs.Html.Escape
import Markweave.Proofs.Substitution
import Markweave.Proofs.Text.Lines
import Markweave.Source.Prepare

namespace Markweave.Source

/-- A line of code as the parser is given it. -/
def marked (line : Text) : Text := if isBlankLine line then blankMark else line

/-- A line of code as it comes back. -/
def unmarked (line : Text) : Text := if line = blankMark then [] else line

theorem markBlankLines_append_singleton (lines : List Text) (last : Text) :
    markBlankLines (lines ++ [last]) = lines.map marked ++ [last] := by
  induction lines with
  | nil => rfl
  | cons line more ih =>
    have hne : more ++ [last] ≠ [] := by simp
    obtain ⟨second, others, he⟩ := List.exists_cons_of_ne_nil hne
    rw [List.cons_append, he, markBlankLines, ← he, ih]
    · rfl
    · exact List.cons_ne_nil _ _

theorem unifyLineEnds_of_notMem {s : Text} (h : '\r' ∉ s) : unifyLineEnds s = s := by
  rw [unifyLineEnds, Text.replace_of_notMem (c := '\r') _ (by decide) h,
    Text.replace_of_notMem (c := '\r') _ (by decide) h]

theorem protectBlankLines_lines {lines : List Text} (h : ∀ l ∈ lines, '\n' ∉ l ∧ '\r' ∉ l) :
    protectBlankLines ('\n' :: lines.flatMap (· ++ ['\n'])) =
      '\n' :: (lines.map marked).flatMap (· ++ ['\n']) := by
  have hreturn : '\r' ∉ '\n' :: lines.flatMap (· ++ ['\n']) :=
    List.not_mem_cons_of_ne_of_not_mem (by decide) (Text.notMem_lines (by decide) fun l hl => (h l hl).2)
  have hsplit : Text.splitOn '\n' ('\n' :: lines.flatMap (· ++ ['\n'])) = [] :: (lines ++ [[]]) := by
    rw [Text.splitOn, if_pos rfl, Text.splitOn_lines fun l hl => (h l hl).1]
  rw [protectBlankLines, unifyLineEnds_of_notMem hreturn, hsplit]
  dsimp only
  rw [markBlankLines_append_singleton, Text.joinWith_cons [] (by simp), Text.joinWith_append_nil, List.nil_append]

theorem restoreBlankLines_lines {lines : List Text} (h : ∀ l ∈ lines, '\n' ∉ l) :
    restoreBlankLines (lines.flatMap (· ++ ['\n'])) = (lines.map unmarked).flatMap (· ++ ['\n']) := by
  rw [restoreBlankLines, Text.splitOn_lines h, List.map_append, List.map_singleton, if_neg (by decide),
    Text.joinWith_append_nil]
  rfl

/-- Code between two fences, and nothing else. -/
theorem protectFenced_fenced {code after : Text} (hcode : '`' ∉ code) (hafter : '`' ∉ after) :
    protectFenced (fence ++ (code ++ (fence ++ after))) = fence ++ (protectBlankLines code ++ (fence ++ after)) := by
  have hcut : cutFenced? (fence ++ (code ++ (fence ++ after))) = some ([], code, after) := by
    have hopen : Text.cut? fence (fence ++ (code ++ (fence ++ after))) = some ([], code ++ (fence ++ after)) :=
      Text.cut?_eq_some_of_dropStart? (Text.dropStart?_append _ _)
    have hclose : Text.cut? fence (code ++ (fence ++ after)) = some (code, after) := Text.cut?_of_notMem hcode after
    rw [cutFenced?, hopen]
    dsimp only
    rw [hclose]
    rfl
  have hrest : protectFenced after = after := by
    have hnone : cutFenced? after = none := by
      rw [cutFenced?, Text.cut?_eq_none_of_notMem (c := '`') (by decide) hafter]
    rw [protectFenced]
    split
    · rfl
    · next h =>
      rw [hnone] at h
      cases h
  rw [protectFenced]
  split
  · next h =>
    rw [hcut] at h
    cases h
  · next h =>
    rw [hcut] at h
    obtain ⟨rfl, rfl, rfl⟩ := by simpa using h
    rw [hrest]
    simp

/-- The text that holds a mark. -/
def Mark.source : Mark → Text
  | comment before inner after => before ++ commentOpen ++ (inner ++ commentClose ++ after)
  | fenced before code after => before ++ fence ++ code ++ fence ++ after

theorem eq_source_of_nextMark? {s : Text} {m : Mark} (h : nextMark? s = some m) : s = m.source := by
  simp only [nextMark?] at h
  split at h
  · next before rest hcut =>
    simp only [Option.map_eq_some_iff, Prod.exists] at h
    obtain ⟨inner, after, hinner, rfl⟩ := h
    rw [Text.eq_append_of_cut? (Option.filter_eq_some_iff.mp hcut).1, eq_append_of_cutOutsideFences? hinner,
      Mark.source]
  · simp only [Option.map_eq_some_iff, Prod.exists] at h
    obtain ⟨before, code, after, hfenced, rfl⟩ := h
    exact eq_append_of_cutFenced? hfenced

theorem expandComments_of_notMem {s : Text} (h : '<' ∉ s) : expandComments s = s := by
  fun_induction expandComments s with
  | case1 s => rfl
  | case2 s before inner after hmark ih =>
    have hopen : '<' ∈ commentOpen := List.mem_cons_self
    exact absurd (by simp [eq_source_of_nextMark? hmark, Mark.source, hopen]) h
  | case3 s before code after hmark ih =>
    have hs := eq_source_of_nextMark? hmark
    rw [hs, Mark.source, ih fun hafter => h (by simp [hs, Mark.source, hafter])]

/-- A comment on one line stays as it is. -/
theorem writeComment_of_notMem {inner : Text} (h : '\n' ∉ inner) :
    writeComment inner = commentOpen ++ inner ++ commentClose := by
  have hread : BlockForm.read? inner = none := by
    rw [BlockForm.read?, Text.cut?_eq_none_of_notMem (c := '\n') (by decide) h]
    rfl
  rw [writeComment, hread]

theorem expandComments_of_line {s : Text} (h : '\n' ∉ s) : expandComments s = s := by
  fun_induction expandComments s with
  | case1 s => rfl
  | case2 s before inner after hmark ih =>
    have hs := eq_source_of_nextMark? hmark
    have hinner : '\n' ∉ inner := fun hc => h (by simp [hs, Mark.source, hc])
    rw [hs, Mark.source, writeComment_of_notMem hinner, ih fun hc => h (by simp [hs, Mark.source, hc])]
    simp
  | case3 s before code after hmark ih =>
    have hs := eq_source_of_nextMark? hmark
    rw [hs, Mark.source, ih fun hc => h (by simp [hs, Mark.source, hc])]

/-- Two fences take six backticks. -/
theorem protectFenced_of_count {s : Text} (h : s.count '`' < 6) : protectFenced s = s := by
  fun_cases protectFenced s with
  | case1 => rfl
  | case2 before code after hcut =>
    have hcount : fence.count '`' = 3 := by decide
    rw [eq_append_of_cutFenced? hcut] at h
    simp only [List.count_append, hcount] at h
    omega

theorem prepare_of_plain {s : Text} (h : ∀ c ∈ s, c ≠ '&' ∧ c ≠ '<' ∧ c ≠ '>' ∧ c ≠ '\u2026') :
    prepare s = protectFenced s := by
  have hescape : Html.escapeLenient s = s := by
    have happ := Html.escapeLenient_append_plain (fun c hc => ⟨(h c hc).1, (h c hc).2.1, (h c hc).2.2.1⟩) []
    simpa [Html.escapeLenient] using happ
  have hmarkup : Substitution.applyAll allowedMarkup s = s :=
    Substitution.applyAll_of_notMem (c := '&') (by decide) fun hc => (h _ hc).1 rfl
  have hellipsis : ellipsis.apply s = s :=
    Text.replace_of_notMem (c := '\u2026') _ (by decide) fun hc => (h _ hc).2.2.2 rfl
  rw [prepare, hescape, hmarkup, hellipsis, expandComments_of_notMem fun hc => (h _ hc).2.1 rfl]

end Markweave.Source
