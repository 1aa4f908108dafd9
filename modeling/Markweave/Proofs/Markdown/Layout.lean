import Markweave.Proofs.Markdown.CodeMarks
import Markweave.Proofs.Markdown.MarginLine
import Markweave.Proofs.Source.Fence
import Markweave.Proofs.Source.OutsideFences

namespace Markweave.Source

/-- A line of text in which nothing begins that could hide the next fence. -/
structure ProseLine (line : Text) : Prop where
  ends : ∀ c ∈ line, Markdown.isLineEnd c = false
  fence : ¬ Source.fence <:+: line
  tildes : ¬ "~~~".toList <:+: line
  definition : ¬ "]:".toList <:+: line
  /-- Raw HTML is a comment that ends on the line. -/
  html : '<' ∉ line ∨ "<!--".toList <+: line ∧ "-->".toList <:+: line

instance (line : Text) : Decidable (ProseLine line) :=
  let comment := Text.startsWith "<!--" line = true ∧ Text.contains "-->" line = true
  decidable_of_iff (line.any Markdown.isLineEnd = false ∧ Text.contains fence line = false ∧
      Text.contains "~~~" line = false ∧ Text.contains "]:" line = false ∧ ('<' ∉ line ∨ comment)) <| by
    simp only [comment, Text.contains_eq_false_iff, Text.startsWith_iff_prefix, Text.contains_iff_infix]
    exact ⟨fun ⟨h₁, h₂, h₃, h₄, h₅⟩ => ⟨by simpa using h₁, h₂, h₃, h₄, h₅⟩,
      fun h => ⟨by simpa using h.ends, h.fence, h.tildes, h.definition, h.html⟩⟩

/-- What may stand behind a fence. -/
structure InfoLine (line : Text) : Prop where
  ends : ∀ c ∈ line, Markdown.isLineEnd c = false
  ticks : '`' ∉ line
  definition : ¬ "]:".toList <:+: line

instance (line : Text) : Decidable (InfoLine line) :=
  decidable_of_iff (line.any Markdown.isLineEnd = false ∧ '`' ∉ line ∧ Text.contains "]:" line = false) <| by
    simp only [Text.contains_eq_false_iff]
    exact ⟨fun ⟨h₁, h₂, h₃⟩ => ⟨by simpa using h₁, h₂, h₃⟩, fun h => ⟨by simpa using h.ends, h.ticks, h.definition⟩⟩

structure FencedLine (line : Text) : Prop where
  ends : ∀ c ∈ line, Markdown.isLineEnd c = false
  fence : ¬ Source.fence <:+: line

instance (line : Text) : Decidable (FencedLine line) :=
  decidable_of_iff (line.any Markdown.isLineEnd = false ∧ Text.contains fence line = false) <| by
    simp only [Text.contains_eq_false_iff]
    exact ⟨fun ⟨h₁, h₂⟩ => ⟨by simpa using h₁, h₂⟩, fun h => ⟨by simpa using h.ends, h.fence⟩⟩

/-- Text, and fenced code behind it that begins and ends at the margin. -/
structure FencedPiece where
  prose : List Text
  info : Text
  code : List Text
  proseLines : ∀ line ∈ prose, ProseLine line
  infoLine : InfoLine info
  codeLines : ∀ line ∈ code, FencedLine line

def FencedPiece.write (p : FencedPiece) : Text :=
  p.prose.flatMap (· ++ ['\n']) ++ (fence ++ (p.info ++ '\n' :: (p.code.flatMap (· ++ ['\n']) ++ fence)))

/-- All fences that have a partner are at the margin. -/
inductive LaidOut : Text → Prop
  | rest {s : Text} (h : cutFenced? s = none) : LaidOut s
  | last (p : FencedPiece) {s : Text} (h : cutFenced? s = none) : LaidOut (p.write ++ s)
  | more (p : FencedPiece) {s : Text} (h : LaidOut s) : LaidOut (p.write ++ '\n' :: s)

namespace FencedPiece

variable (p : FencedPiece)

theorem fencedLine_info : FencedLine p.info :=
  ⟨p.infoLine.ends, fun h => p.infoLine.ticks (h.subset (by decide))⟩

theorem fencedLines : ∀ line ∈ p.info :: p.code, FencedLine line :=
  List.forall_mem_cons.mpr ⟨p.fencedLine_info, p.codeLines⟩

theorem cutFenced?_write (s : Text) : cutFenced? (p.write ++ s) =
    some (p.prose.flatMap (· ++ ['\n']), p.info ++ '\n' :: p.code.flatMap (· ++ ['\n']), s) := by
  have hfence : ∀ t : Text, Text.cut? fence (fence ++ t) = some ([], t) :=
    fun t => Text.cut?_eq_some_of_dropStart? (Text.dropStart?_append fence t)
  have hprose := Text.cut?_lines (notMem_fence (by decide)) fun line hline =>
    (p.proseLines line hline).fence
  have hcode : Text.cut? fence ((p.info :: p.code).flatMap (· ++ ['\n']) ++ (fence ++ s)) = _ :=
    Text.cut?_lines (notMem_fence (by decide))
      (fun line hline => (p.fencedLines line hline).fence) (fence ++ s)
  have hwrite : p.write ++ s = p.prose.flatMap (· ++ ['\n']) ++
      (fence ++ ((p.info :: p.code).flatMap (· ++ ['\n']) ++ (fence ++ s))) := by
    simp [write]
  rw [cutFenced?, hwrite, hprose, hfence]
  simp only [Option.map_some, List.append_nil]
  rw [hcode, hfence]
  simp

theorem splitOn_code : Text.splitOn '\n' (unifyLineEnds (p.info ++ '\n' :: p.code.flatMap (· ++ ['\n']))) =
    p.info :: (p.code ++ [[]]) := by
  have hends : ∀ {c}, Markdown.isLineEnd c = true → ∀ line ∈ p.info :: p.code, c ∉ line := by
    intro c hc line hline hmem
    simp [(p.fencedLines line hline).ends c hmem] at hc
  have hwrite : p.info ++ '\n' :: p.code.flatMap (· ++ ['\n']) = (p.info :: p.code).flatMap (· ++ ['\n']) := by simp
  rw [hwrite, unifyLineEnds_of_notMem (Text.notMem_lines (by decide) (hends rfl)), Text.splitOn_lines (hends rfl)]
  rfl

end FencedPiece

theorem blankLines_of_none {s : Text} (h : cutFenced? s = none) : blankLines s = ⟨s, []⟩ := by
  rw [blankLines]
  split
  · rfl
  · next hcut => cases h.symm.trans hcut

theorem blankLines_of_some {s before code after : Text} (h : cutFenced? s = some (before, code, after)) {first : Text}
    {more : List Text} (hlines : Text.splitOn '\n' (unifyLineEnds code) = first :: more) :
    blankLines s = (blankLinesFrom ((blankLines after).prepend fence) more).prepend (before ++ fence ++ first) := by
  rw [blankLines]
  split
  · next hcut => cases h.symm.trans hcut
  · next hcut =>
    obtain ⟨rfl, rfl, rfl⟩ := by simpa using h.symm.trans hcut
    rw [hlines]

theorem FencedPiece.blankLines_write (p : FencedPiece) (s : Text) : blankLines (p.write ++ s) =
    (blankLinesFrom ((blankLines s).prepend fence) (p.code ++ [[]])).prepend
      (p.prose.flatMap (· ++ ['\n']) ++ fence ++ p.info) :=
  blankLines_of_some (p.cutFenced?_write s) p.splitOn_code

theorem blankLines_newline (s : Text) : blankLines ('\n' :: s) = (blankLines s).prepend ['\n'] := by
  have hcut : cutFenced? ('\n' :: s) = _ := cutFenced?_prepend (x := ['\n']) (by simp [fence]) s
  cases hs : cutFenced? s with
  | none =>
    rw [hs] at hcut
    rw [blankLines_of_none hs, blankLines_of_none hcut]
    rfl
  | some found =>
    obtain ⟨before, code, after⟩ := found
    rw [hs] at hcut
    obtain ⟨first, more, hlines⟩ := List.exists_cons_of_ne_nil (Text.splitOn_ne_nil '\n' (unifyLineEnds code))
    rw [blankLines_of_some hs hlines, blankLines_of_some hcut hlines]
    simp [Interleaved.prepend]

theorem blankLinesFrom_cons (behind : Interleaved Text) (line : Text) (more : List Text) :
    blankLinesFrom behind (line :: (more ++ [[]])) =
      if isBlankLine line then (blankLinesFrom behind (more ++ [[]])).cons ['\n'] line
      else (blankLinesFrom behind (more ++ [[]])).prepend ('\n' :: line) := by
  rw [blankLinesFrom]
  simp

end Markweave.Source

namespace Markweave.Markdown

open Interleaved (writeRest)
open Marker
open Source (FencedLine FencedPiece InfoLine LaidOut ProseLine blankLines blankLinesFrom blankMark fence)

variable {opts : Options} {o q : Outline} {s t line : Text} {rest : List (Text × Text)}

namespace BlockReader

/-- Where a fence stands below, a definition ends above it. -/
theorem definition?_eq_none (opts : Options) (hb : AboveFence s) (he : NoEscapedFence s)
    (h : ¬ "]:".toList <:+: s) (o : Outline) (w : Text) : definition? opts o (s ++ w) = none := by
  match s with
  | [] => exact absurd hb.newline_mem List.not_mem_nil
  | c :: s =>
    by_cases hc : c = '['
    swap
    · rw [List.cons_append, definition?]
      rintro t heq
      exact hc (List.cons.inj heq).1
    subst hc
    have hlabel := label?_append opts o ((AboveFence.sameLine_iff (.tail (c := '[') rfl s)).mp hb) (he [] s rfl) w
    rw [List.cons_append, definition?_cons, hlabel.longer_eq]
    cases hfound : Link.label? (continueLine? opts o) s with
    | none => rfl
    | some found =>
      obtain ⟨label, rest⟩ := found
      obtain ⟨hcolon, -⟩ := dropStart?_colon_append (hlabel.rest label rest hfound).2.newline_mem w
      simp only [Option.map_some, restAppend, Option.bind_some]
      rw [hcolon]
      cases hbehind : Text.dropStart? ":" rest with
      | none => rfl
      | some behind =>
        obtain rfl := Text.eq_append_of_dropStart? hbehind
        have hclose : "]:".toList ++ behind <:+ '[' :: s := (Link.label?_close hfound).trans (List.suffix_cons _ _)
        exact absurd ((List.prefix_append _ behind).isInfix.trans hclose.isInfix) h

/-- A line of prose above a fence. -/
theorem plainLine_of_prose (opts : Options) (h : ProseLine line) (hhtml : '<' ∉ line) (ht : Barred t)
    (he : NoEscapedFence (line ++ '\n' :: t)) (hlabel : ¬ "]:".toList <:+: line ++ '\n' :: t) (w : Text) :
    PlainLine opts (line ++ '\n' :: (t ++ w)) (t ++ w) where
  ends := ⟨line, rfl, h.ends⟩
  html p hp := by
    obtain ⟨v, hv, rfl⟩ := hp.exists_suffix h.ends
    cases v with
    | nil => exact blockStart?_of_head_ne (by decide) _
    | cons c v =>
      refine blockStart?_of_head_ne ?_ _
      rintro rfl
      exact hhtml (hv.subset List.mem_cons_self)
  fence p hp := by
    obtain ⟨v, hv, rfl⟩ := hp.exists_suffix h.ends
    rw [← Option.not_isSome_iff_eq_none]
    intro hfence
    rcases prefix_of_fence? hfence with hstarts | hstarts
    · have hmarks := (Text.prefix_append_cons_iff (by decide)).mp hstarts
      exact h.fence (hmarks.isInfix.trans hv.isInfix)
    · have hmarks := (Text.prefix_append_cons_iff (by decide)).mp hstarts
      exact h.tildes (hmarks.isInfix.trans hv.isInfix)
  definition p o hp := by
    obtain ⟨v, hv, rfl⟩ := hp.exists_suffix h.ends
    have hsuffix : v ++ '\n' :: t <:+ line ++ '\n' :: t := by
      obtain ⟨u, rfl⟩ := hv
      exact ⟨u, by simp⟩
    have hline : SameLine (v ++ '\n' :: t) ('\n' :: t) := ⟨v, rfl, fun c hc => h.ends c (hv.subset hc)⟩
    have habove : AboveFence (v ++ '\n' :: t) := by
      rw [AboveFence, hline.cutLine_below]
      exact ht
    have hnone := definition?_eq_none opts habove (he.suffix hsuffix)
      (fun h => hlabel (h.trans hsuffix.isInfix)) o w
    simpa using hnone

section Lead

variable {lines : List Text} {info : Text} (hlines : ∀ line ∈ lines, ProseLine line) (hinfo : InfoLine info)
include hlines hinfo

theorem barred_lead : Barred (lines.flatMap (· ++ ['\n']) ++ (fence ++ (info ++ ['\n']))) := by
  induction lines with
  | nil =>
    have hfence := fence?_backticks hinfo.ticks (fun hmem => absurd (hinfo.ends _ hmem) (by decide)) []
    have hstarts : startsFence ('`' :: '`' :: '`' :: (info ++ ['\n'])) = true := by simp [startsFence, hfence]
    exact .fence hstarts (by simp)
  | cons line more ih =>
    rw [List.forall_mem_cons] at hlines
    have hline : SameLine (line ++ '\n' :: (more.flatMap (· ++ ['\n']) ++ (fence ++ (info ++ ['\n'])))) _ :=
      ⟨line, rfl, hlines.1.ends⟩
    rw [Text.lines_cons]
    refine .above ?_
    rw [hline.cutLine_below]
    exact ih hlines.2

theorem not_definition_lead : ¬ "]:".toList <:+: lines.flatMap (· ++ ['\n']) ++ (fence ++ (info ++ ['\n'])) := by
  have hline : '\n' ∉ "]:".toList := by simp
  induction lines with
  | nil =>
    intro h
    have hbehind := Text.infix_of_infix_append (x := fence) (by simp [fence]) (by simp) h
    rcases (Text.infix_append_cons_iff hline).mp hbehind with h | h
    · exact hinfo.definition h
    · simp at h
  | cons line more ih =>
    rw [List.forall_mem_cons] at hlines
    rw [Text.lines_cons, Text.infix_append_cons_iff hline, not_or]
    exact ⟨hlines.1.definition, ih hlines.2⟩

/-- The lines of prose are read one by one, and the fence behind them begins the code. -/
theorem reads_lead (opts : Options) (ho : o.InText)
    (he : NoEscapedFence (lines.flatMap (· ++ ['\n']) ++ (fence ++ (info ++ ['\n'])))) (w : Text) :
    ∃ q, Reads opts o (lines.flatMap (· ++ ['\n']) ++ (fence ++ (info ++ '\n' :: w))) q w ∧ Coding q := by
  induction lines generalizing o with
  | nil =>
    obtain ⟨q, hstep, hq⟩ := step_fenceLine opts ho hinfo.ticks hinfo.ends w
    exact ⟨q, reads_line (fence ++ info) (by simpa using hstep), hq⟩
  | cons line more ih =>
    have hbarred := barred_lead (List.forall_mem_cons.mp hlines).2 hinfo
    have hlabel := not_definition_lead hlines hinfo
    rw [List.forall_mem_cons] at hlines
    rw [Text.lines_cons] at he hlabel ⊢
    have hfirst : ∃ p, step opts o (line ++ '\n' :: (more.flatMap (· ++ ['\n']) ++ (fence ++ (info ++ '\n' :: w)))) =
        (p, more.flatMap (· ++ ['\n']) ++ (fence ++ (info ++ '\n' :: w))) ∧ p.InText := by
      rcases hlines.1.html with hhtml | ⟨hopen, hclose⟩
      · have hplain := plainLine_of_prose opts hlines.1 hhtml hbarred he hlabel w
        have htakes := takesLine_step ho (by simpa using hplain)
        exact ⟨_, Prod.ext rfl htakes.rest, htakes.inText⟩
      · exact step_commentLine opts ho hlines.1.ends hopen hclose _
    obtain ⟨p, hstep, hp⟩ := hfirst
    obtain ⟨q, hreads, hq⟩ := ih hlines.2 hp (he.suffix ⟨line ++ ['\n'], by simp⟩)
    exact ⟨q, (reads_line line hstep).trans hreads, hq⟩

end Lead

theorem inCode_of_coding (h : Coding o) : o.InCode := by
  obtain ⟨hframes, info, content, hleaf⟩ := h
  exact ⟨hframes, _, _, info, content, hleaf⟩

/-- The reader comes by each mark that is left inside code. -/
def MarksFrom (opts : Options) (o : Outline) (s : Text) (rest : List (Text × Text)) : Prop :=
  ∀ more, more <:+ rest → more ≠ [] → ∃ q, Reads opts o s q (writeRest (fun _ => blankMark) more) ∧ q.InCode

namespace MarksFrom

theorem nil : MarksFrom opts o s [] := fun _ hmore hne => absurd (List.suffix_nil.mp hmore) hne

theorem behind (h : Reads opts o s q t) (ht : MarksFrom opts q t rest) : MarksFrom opts o s rest := by
  intro more hmore hne
  obtain ⟨r, hr, hcode⟩ := ht more hmore hne
  exact ⟨r, h.trans hr, hcode⟩

theorem cons {i gap : Text} (ho : o.InCode)
    (h : MarksFrom opts o (writeRest (fun _ => blankMark) ((i, gap) :: rest)) rest) :
    MarksFrom opts o (writeRest (fun _ => blankMark) ((i, gap) :: rest)) ((i, gap) :: rest) := by
  intro more hmore hne
  rcases List.suffix_cons_iff.mp hmore with rfl | hmore
  · exact ⟨o, .done, ho⟩
  · exact h more hmore hne

end MarksFrom

theorem marksFrom_code {lines : List Text} (hlines : ∀ line ∈ lines, FencedLine line) {behind : Interleaved Text}
    (hbehind : ∀ o, Coding o → MarksFrom opts o (behind.write fun _ => blankMark) behind.rest) :
    ∃ t, (blankLinesFrom behind (lines ++ [[]])).write (fun _ => blankMark) = '\n' :: t ∧
      ∀ o, Coding o → MarksFrom opts o t (blankLinesFrom behind (lines ++ [[]])).rest := by
  induction lines with
  | nil => exact ⟨behind.write fun _ => blankMark, by simp [blankLinesFrom], hbehind⟩
  | cons line more ih =>
    rw [List.forall_mem_cons] at hlines
    obtain ⟨t, ht, hmarks⟩ := ih hlines.2
    rw [List.cons_append, Source.blankLinesFrom_cons]
    split
    · refine ⟨blankMark ++ '\n' :: t, by simp [ht], fun o ho => ?_⟩
      have hmark : FencedLine blankMark := by decide
      obtain ⟨q, hstep, hq⟩ := step_codeLine opts ho hmark.ends hmark.fence t
      have hread := MarksFrom.behind (reads_line blankMark hstep) (hmarks q hq)
      rw [← ht] at hread ⊢
      exact .cons (inCode_of_coding ho) hread
    · refine ⟨line ++ '\n' :: t, by simp [ht], fun o ho => ?_⟩
      obtain ⟨q, hstep, hq⟩ := step_codeLine opts ho hlines.1.ends hlines.1.fence t
      exact .behind (reads_line line hstep) (hmarks q hq)

theorem marksFrom_piece (p : FencedPiece) (ho : o.InText)
    (he : NoEscapedFence ((blankLines (p.write ++ s)).write fun _ => blankMark))
    (hbehind : NoEscapedFence ((blankLines s).write fun _ => blankMark) → ∀ o, Coding o →
      MarksFrom opts o (fence ++ (blankLines s).write fun _ => blankMark) (blankLines s).rest) :
    MarksFrom opts o ((blankLines (p.write ++ s)).write fun _ => blankMark) (blankLines (p.write ++ s)).rest := by
  have hsuffix := Source.write_blankLinesFrom (fun _ => blankMark) ((blankLines s).prepend fence) [] (p.code ++ [[]])
  rw [p.blankLines_write, Interleaved.write_prepend] at he ⊢
  rw [List.nil_append, Interleaved.write_prepend, ← List.append_assoc] at hsuffix
  have hescape : NoEscapedFence ((blankLines s).write fun _ => blankMark) :=
    he.suffix (.trans ⟨_, hsuffix.symm⟩ (List.suffix_append _ _))
  have hfence : ∀ o, Coding o → MarksFrom opts o (((blankLines s).prepend fence).write fun _ => blankMark)
      ((blankLines s).prepend fence).rest := by
    rw [Interleaved.write_prepend]
    exact hbehind hescape
  obtain ⟨t, ht, hmarks⟩ := marksFrom_code p.codeLines hfence
  have hlead : p.prose.flatMap (· ++ ['\n']) ++ fence ++ p.info ++ '\n' :: t =
      p.prose.flatMap (· ++ ['\n']) ++ (fence ++ (p.info ++ ['\n'])) ++ t := by simp
  rw [ht, hlead] at he
  obtain ⟨q, hreads, hq⟩ := reads_lead p.proseLines p.infoLine opts ho
    (he.of_append (.inr (by simp [List.getLast?_append]))) t
  rw [ht]
  exact .behind (by simpa using hreads) (hmarks q hq)

end BlockReader

/-- In a text with its fences at the margin the reader finds every mark inside code. -/
theorem marksInCode_of_laidOut (h : LaidOut s) (he : NoEscapedFence (Source.protectFenced s)) :
    MarksInCode opts (blankLines s) := by
  rw [← Source.write_blankLines_mark] at he
  have hall : ∀ o : Outline, o.InText →
      BlockReader.MarksFrom opts o ((blankLines s).write fun _ => blankMark) (blankLines s).rest := by
    induction h with
    | rest h =>
      intro o _
      rw [Source.blankLines_of_none h]
      exact .nil
    | last p h =>
      intro o ho
      refine BlockReader.marksFrom_piece p ho he fun _ q _ => ?_
      rw [Source.blankLines_of_none h]
      exact .nil
    | more p h ih =>
      intro o ho
      refine BlockReader.marksFrom_piece p ho he fun hescape q hq => ?_
      rw [Source.blankLines_newline] at hescape ⊢
      rw [Interleaved.write_prepend] at hescape ⊢
      obtain ⟨r, hstep, hr⟩ := BlockReader.step_fenceEnd opts hq _
      exact .behind (BlockReader.reads_line fence hstep) (ih (hescape.suffix (List.suffix_append _ _)) r hr)
  exact hall .empty ⟨.nil, rfl⟩

end Markweave.Markdown
