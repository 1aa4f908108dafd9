import Markweave.Proofs.Source.OutsideFences
import Markweave.Proofs.Source.Prepare
import Markweave.Proofs.Text.Segments

namespace Markweave.Source

variable {s t code : Text}

/-- A text cut at the successive fences. -/
def fenceSegments (s : Text) : List Text :=
  match _cut : Text.cut? fence s with
  | none => [s]
  | some (before, after) => before :: fenceSegments after
termination_by s.length
decreasing_by
  rw [Text.eq_append_of_cut? _cut]
  simp [fence]
  omega

/-- Of `n` segments, the one at `i` stands between the two fences of a pair: fences are paired from the left, and a
last fence may be left over. -/
def Paired (i n : Nat) : Prop := i % 2 = 1 ∧ i + 1 < n

instance (i n : Nat) : Decidable (Paired i n) := inferInstanceAs (Decidable (_ ∧ _))

/-- Changes the segments between paired fences. -/
def mapPaired (f : Text → Text) : List Text → List Text
  | before :: code :: after :: rest => before :: f code :: mapPaired f (after :: rest)
  | segments => segments

/-- Changes the lines that stand neither first nor last. -/
def mapInner (f : Text → Text) (lines : List Text) : List Text :=
  lines.mapIdx fun i line => if 0 < i ∧ i + 1 < lines.length then f line else line

/-- A line that holds nothing but spaces and tabs becomes empty. -/
def emptied (line : Text) : Text := if isBlankLine line then [] else line

/-- The lines of a text, its line ends made uniform. -/
def linesOf (s : Text) : List Text := Text.splitOn '\n' (unifyLineEnds s)

theorem fenceSegments_of_none (h : Text.cut? fence s = none) : fenceSegments s = [s] := by
  rw [fenceSegments]
  split
  · rfl
  · next he => cases h.symm.trans he

theorem fenceSegments_of_some {before after : Text} (h : Text.cut? fence s = some (before, after)) :
    fenceSegments s = before :: fenceSegments after := by
  rw [fenceSegments]
  split
  · next he => cases h.symm.trans he
  · next he =>
    obtain ⟨rfl, rfl⟩ := by simpa using h.symm.trans he
    rfl

theorem fenceSegments_ne_nil (s : Text) : fenceSegments s ≠ [] := by
  fun_cases fenceSegments s with
  | case1 => exact List.cons_ne_nil _ _
  | case2 => exact List.cons_ne_nil _ _

theorem intercalate_fenceSegments (s : Text) : fence.intercalate (fenceSegments s) = s := by
  fun_induction fenceSegments s with
  | case1 s => exact List.intercalate_singleton
  | case2 s before after hcut ih =>
    obtain ⟨next, rest, he⟩ := List.exists_cons_of_ne_nil (fenceSegments_ne_nil after)
    rw [he, List.intercalate_cons_cons, ← he, ih, Text.eq_append_of_cut? hcut, List.append_assoc]

theorem not_infix_of_mem_fenceSegments {segment : Text} (h : segment ∈ fenceSegments s) :
    ¬ fence <:+: segment := by
  fun_induction fenceSegments s with
  | case1 s hcut =>
    obtain rfl := List.mem_singleton.mp h
    exact Text.cut?_eq_none_iff.mp hcut
  | case2 s before after hcut ih =>
    rcases List.mem_cons.mp h with rfl | h
    · exact Text.not_infix_of_cut? fence_ne_nil hcut
    · exact ih h

theorem mapPaired_cons_cons (f : Text → Text) (before code : Text) {rest : List Text} (h : rest ≠ []) :
    mapPaired f (before :: code :: rest) = before :: f code :: mapPaired f rest := by
  obtain ⟨after, others, rfl⟩ := List.exists_cons_of_ne_nil h
  rw [mapPaired]

@[simp]
theorem length_mapPaired (f : Text → Text) (segments : List Text) :
    (mapPaired f segments).length = segments.length := by
  fun_induction mapPaired f segments with
  | case1 before code after rest ih => simp [ih]
  | case2 => rfl

theorem getElem?_mapPaired (f : Text → Text) (segments : List Text) (i : Nat) :
    (mapPaired f segments)[i]? = segments[i]?.map (if Paired i segments.length then f else id) := by
  fun_induction mapPaired f segments generalizing i with
  | case1 before code after rest ih =>
    match i with
    | 0 => simp [Paired]
    | 1 => simp [Paired]
    | i + 2 =>
      have hpaired : Paired (i + 2) (before :: code :: after :: rest).length ↔ Paired i (after :: rest).length := by
        simp only [Paired, List.length_cons]
        omega
      simp only [List.getElem?_cons_succ, ih, hpaired]
  | case2 segments hshort =>
    have hpaired : ¬ Paired i segments.length ∨ segments[i]? = none := by
      match segments with
      | [] => exact .inr rfl
      | [_] => exact .inl (by simp only [Paired, List.length_cons, List.length_nil]; omega)
      | [_, _] => exact .inl (by simp only [Paired, List.length_cons, List.length_nil]; omega)
      | before :: code :: after :: rest => exact absurd rfl (hshort before code after rest)
    rcases hpaired with h | h
    · simp [h]
    · simp [h]

theorem infix_of_infix_unifyLineEnds (h : fence <:+: unifyLineEnds s) : fence <:+: s :=
  have hline : Text.Apart fence "\n" := by decide
  Text.infix_of_infix_replace hline (by decide) (Text.infix_of_infix_replace hline (by decide) h)

theorem infix_of_infix_markBlankLines (lines : List Text)
    (h : fence <:+: Text.joinWith '\n' (markBlankLines lines) ++ t) : fence <:+: Text.joinWith '\n' lines ++ t := by
  have hend : '\n' ∉ fence := notMem_fence (by decide)
  induction lines with
  | nil => exact h
  | cons line more ih =>
    by_cases hmore : more = []
    · subst hmore
      exact h
    rw [markBlankLines_cons line hmore, Text.joinWith_cons _ (markBlankLines_ne_nil hmore), List.append_assoc,
      List.cons_append, Text.infix_append_cons_iff hend] at h
    rw [Text.joinWith_cons line hmore, List.append_assoc, List.cons_append, Text.infix_append_cons_iff hend]
    refine h.imp (fun hline => ?_) ih
    split at hline
    · exact absurd hline (by decide)
    · exact hline

theorem infix_of_infix_protectBlankLines (h : fence <:+: protectBlankLines code ++ t) :
    fence <:+: unifyLineEnds code ++ t := by
  have hend : '\n' ∉ fence := notMem_fence (by decide)
  obtain ⟨first, more, he⟩ := List.exists_cons_of_ne_nil (Text.splitOn_ne_nil '\n' (unifyLineEnds code))
  have hlines := Text.joinWith_splitOn '\n' (unifyLineEnds code)
  rw [he] at hlines
  simp only [protectBlankLines, he] at h
  rw [← hlines]
  by_cases hmore : more = []
  · subst hmore
    exact h
  rw [Text.joinWith_cons _ (markBlankLines_ne_nil hmore), List.append_assoc, List.cons_append,
    Text.infix_append_cons_iff hend] at h
  rw [Text.joinWith_cons _ hmore, List.append_assoc, List.cons_append, Text.infix_append_cons_iff hend]
  exact h.imp_right (infix_of_infix_markBlankLines more)

/-- The fence that closes code closes it also when blank lines are marked: backticks before it are part of no earlier
fence. -/
theorem cut?_protectBlankLines {after : Text} (h : Text.cut? fence (code ++ fence ++ after) = some (code, after))
    (r : Text) : Text.cut? fence (protectBlankLines code ++ fence ++ r) = some (protectBlankLines code, r) := by
  rw [Text.cut?_append_iff fence_ne_nil] at h ⊢
  refine fun hoccurs => h (infix_of_infix_unifyLineEnds ?_)
  have hticks : unifyLineEnds (code ++ fence.dropLast) = unifyLineEnds code ++ fence.dropLast := by
    have htick := unifyLineEnds_append (c := '`') (by decide) code ['`']
    rwa [unifyLineEnds_of_notMem (s := ['`']) (by decide)] at htick
  rw [hticks]
  exact infix_of_infix_protectBlankLines hoccurs

theorem fenceSegments_protectFenced (s : Text) :
    fenceSegments (protectFenced s) = mapPaired protectBlankLines (fenceSegments s) := by
  fun_induction protectFenced s with
  | case1 s hcut =>
    cases hopen : Text.cut? fence s with
    | none => rw [fenceSegments_of_none hopen, mapPaired]; simp
    | some pair =>
      rw [cutFenced?, hopen, Option.map_eq_none_iff] at hcut
      rw [fenceSegments_of_some hopen, fenceSegments_of_none hcut, mapPaired]
      simp
  | case2 s before code after hcut ih =>
    obtain ⟨rest, hopen, hclose⟩ := cutFenced?_eq_some_iff.mp hcut
    have hcode := Text.cut?_append_of_cut? hopen (protectBlankLines code ++ fence ++ protectFenced after)
    have hafter : Text.cut? fence (code ++ fence ++ after) = some (code, after) := by
      rwa [← Text.eq_append_of_cut? hclose]
    rw [fenceSegments_of_some hopen, fenceSegments_of_some hclose,
      mapPaired_cons_cons _ _ _ (fenceSegments_ne_nil after), ← ih,
      ← fenceSegments_of_some (cut?_protectBlankLines hafter (protectFenced after)), ← fenceSegments_of_some hcode]
    simp only [List.append_assoc]

theorem markBlankLines_eq_mapIdx (lines : List Text) :
    markBlankLines lines = lines.mapIdx fun i line => if i + 1 < lines.length then marked line else line := by
  induction lines with
  | nil => rfl
  | cons line more ih =>
    by_cases hmore : more = []
    · subst hmore
      rfl
    have hlength := List.length_pos_iff.mpr hmore
    rw [markBlankLines_cons line hmore, List.mapIdx_cons, ih]
    simp [marked, hlength]

theorem protectBlankLines_eq_joinWith (code : Text) :
    protectBlankLines code = Text.joinWith '\n' (mapInner marked (linesOf code)) := by
  obtain ⟨first, more, he⟩ := List.exists_cons_of_ne_nil (Text.splitOn_ne_nil '\n' (unifyLineEnds code))
  simp only [protectBlankLines, linesOf, he, mapInner, List.mapIdx_cons, markBlankLines_eq_mapIdx]
  simp

@[simp]
theorem length_mapInner (f : Text → Text) (lines : List Text) : (mapInner f lines).length = lines.length :=
  List.length_mapIdx

theorem mapInner_ne_nil {f : Text → Text} {lines : List Text} (h : lines ≠ []) : mapInner f lines ≠ [] := by
  rw [← List.length_pos_iff, length_mapInner]
  exact List.length_pos_iff.mpr h

theorem forall_mem_mapInner {p : Text → Prop} {f : Text → Text} {lines : List Text} (h : ∀ line ∈ lines, p line)
    (hf : ∀ line, p line → p (f line)) : ∀ line ∈ mapInner f lines, p line := by
  intro line hline
  obtain ⟨i, hi, rfl⟩ := List.mem_mapIdx.mp hline
  have hget := h lines[i] (List.getElem_mem hi)
  split
  · exact hf _ hget
  · exact hget

/-- A change of all lines that leaves them as they are unless they were changed before. -/
theorem map_mapInner {f g k : Text → Text} {lines : List Text} (hg : ∀ line ∈ lines, g line = line)
    (hfg : ∀ line ∈ lines, g (f line) = k line) : (mapInner f lines).map g = mapInner k lines := by
  refine List.ext_getElem (by simp) fun i hi _ => ?_
  simp only [mapInner, List.getElem_map, List.getElem_mapIdx]
  split
  · exact hfg _ (List.getElem_mem _)
  · exact hg _ (List.getElem_mem _)

theorem linesOf_ne_nil (s : Text) : linesOf s ≠ [] := Text.splitOn_ne_nil _ _

theorem notMem_marked {line : Text} (h : '\n' ∉ line) : '\n' ∉ marked line := by
  rw [marked]
  split
  · decide
  · exact h

theorem notMem_emptied {line : Text} (h : '\n' ∉ line) : '\n' ∉ emptied line := by
  rw [emptied]
  split
  · exact List.not_mem_nil
  · exact h

theorem unmarked_marked {line : Text} (h : line ≠ blankMark) : unmarked (marked line) = emptied line := by
  rw [marked, emptied]
  split
  · rfl
  · exact if_neg h

theorem restoreBlankLines_joinWith {lines : List Text} (hlines : ∀ line ∈ lines, '\n' ∉ line) (hne : lines ≠ []) :
    restoreBlankLines (Text.joinWith '\n' lines) = Text.joinWith '\n' (lines.map unmarked) := by
  rw [restoreBlankLines, Text.splitOn_joinWith hlines hne]
  rfl

/-- Code without a mark comes back with the blank lines inside it empty, each still a line. -/
theorem restoreBlankLines_protectBlankLines (h : blankMark ∉ linesOf code) :
    restoreBlankLines (protectBlankLines code) = Text.joinWith '\n' (mapInner emptied (linesOf code)) ∧
      Text.splitOn '\n' (restoreBlankLines (protectBlankLines code)) = mapInner emptied (linesOf code) := by
  have hends : ∀ line ∈ linesOf code, '\n' ∉ line := fun _ => Text.sep_notMem_of_mem_splitOn
  have hmark : ∀ line ∈ linesOf code, line ≠ blankMark := fun _ hline he => h (he ▸ hline)
  have hback : restoreBlankLines (protectBlankLines code) = Text.joinWith '\n' (mapInner emptied (linesOf code)) := by
    rw [protectBlankLines_eq_joinWith,
      restoreBlankLines_joinWith (forall_mem_mapInner hends fun _ => notMem_marked)
        (mapInner_ne_nil (linesOf_ne_nil code)),
      map_mapInner (g := unmarked) (fun line hline => if_neg (hmark line hline)) fun line hline =>
        unmarked_marked (hmark line hline)]
  refine ⟨hback, ?_⟩
  rw [hback]
  exact Text.splitOn_joinWith (forall_mem_mapInner hends fun _ => notMem_emptied)
    (mapInner_ne_nil (linesOf_ne_nil code))

/-- In a text without special characters preparation moves no fence. It changes the code between paired fences only,
and there, unless a line looks like a mark, what comes back is the code with uniform line ends and with the blank
lines inside it empty; no line is lost. -/
theorem fenceSegments_prepare (hplain : ∀ c ∈ s, c ≠ '&' ∧ c ≠ '<' ∧ c ≠ '>' ∧ c ≠ '\u2026') :
    (fenceSegments (prepare s)).length = (fenceSegments s).length ∧
    (∀ i, ¬ Paired i (fenceSegments s).length → (fenceSegments (prepare s))[i]? = (fenceSegments s)[i]?) ∧
    ∀ i code, Paired i (fenceSegments s).length → (fenceSegments s)[i]? = some code → blankMark ∉ linesOf code →
      ∃ prepared, (fenceSegments (prepare s))[i]? = some prepared ∧
        restoreBlankLines prepared = Text.joinWith '\n' (mapInner emptied (linesOf code)) ∧
        (Text.splitOn '\n' (restoreBlankLines prepared)).length = (linesOf code).length := by
  rw [prepare_of_plain hplain, fenceSegments_protectFenced]
  refine ⟨length_mapPaired _ _, ?_, ?_⟩
  · intro i hpaired
    rw [getElem?_mapPaired, if_neg hpaired, Option.map_id_fun, id]
  · intro i code hpaired hcode hmark
    obtain ⟨hback, hlines⟩ := restoreBlankLines_protectBlankLines hmark
    refine ⟨protectBlankLines code, ?_, hback, ?_⟩
    · rw [getElem?_mapPaired, if_pos hpaired, hcode, Option.map_some]
    · rw [hlines, length_mapInner]

/-- Four backticks, of which the last is code; both kinds of line ends; a blank line; a fence without a partner. -/
def sampleFences : Text := "a\n\n````x\r\n \t\n\r\n```b```\n \nc"

theorem fenceSegments_prepare_sample :
    (∀ c ∈ sampleFences, c ≠ '&' ∧ c ≠ '<' ∧ c ≠ '>' ∧ c ≠ '\u2026') ∧
    (fenceSegments (prepare sampleFences)).length = 4 ∧
    (fenceSegments (prepare sampleFences))[3]? = some "\n \nc".toList ∧
    (Paired 1 (fenceSegments sampleFences).length ∧
      (fenceSegments sampleFences)[1]? = some "`x\r\n \t\n\r\n".toList ∧
      blankMark ∉ linesOf "`x\r\n \t\n\r\n") ∧
    ∃ prepared, (fenceSegments (prepare sampleFences))[1]? = some prepared ∧
      restoreBlankLines prepared = "`x\n\n\n".toList := by
  have hplain : ∀ c ∈ sampleFences, c ≠ '&' ∧ c ≠ '<' ∧ c ≠ '>' ∧ c ≠ '\u2026' :=
    List.all_iff_forall_prop.mp (by decide +kernel)
  obtain ⟨hlength, houtside, hinside⟩ := fenceSegments_prepare hplain
  have hcode : Paired 1 (fenceSegments sampleFences).length ∧
      (fenceSegments sampleFences)[1]? = some "`x\r\n \t\n\r\n".toList ∧
      blankMark ∉ linesOf "`x\r\n \t\n\r\n" := by decide +kernel
  obtain ⟨prepared, hprepared, hback, _⟩ := hinside 1 _ hcode.1 hcode.2.1 hcode.2.2
  refine ⟨hplain, ?_, ?_, hcode, prepared, hprepared, ?_⟩
  · rw [hlength]
    decide +kernel
  · rw [houtside 3 (by decide +kernel)]
    decide +kernel
  · rw [hback]
    decide +kernel

end Markweave.Source
