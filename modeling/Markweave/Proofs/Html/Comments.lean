import Markweave.Proofs.Html.Written
import Markweave.Proofs.Text.Occurrence
import Markweave.Proofs.Text.Pattern

namespace Markweave.Html

open Markdown (Event Tag StopTag)

theorem commentsIn_consChar (c : Char) (ps : List (Piece InlineToken)) :
    commentsIn (Piece.consChar c ps) = commentsIn ps := by
  match ps with
  | [] => rfl
  | .plain _ :: _ => rfl
  | .found _ :: _ => rfl

theorem infix_of_readDirective? {s raw r : Text} (h : InlineToken.readDirective? s = some (raw, r)) :
    "<!---".toList <:+: s := by
  obtain ⟨t, ht, _⟩ := Option.bind_eq_some_iff.mp h
  exact ⟨[], t, (Text.eq_append_of_dropStart? ht).symm⟩

theorem suffix_of_closeBreak? {s r : Text} (h : InlineToken.closeBreak? s = some r) : r <:+ s := by
  unfold InlineToken.closeBreak? at h
  have hs := List.dropWhile_suffix (l := s) Unicode.isBlank
  split at h
  · next rest hd =>
    obtain rfl := Option.some.inj h
    rw [hd] at hs
    exact (List.suffix_cons _ _).trans hs
  · next rest hd =>
    obtain rfl := Option.some.inj h
    rw [hd] at hs
    exact ((List.suffix_cons _ _).trans (List.suffix_cons _ _)).trans hs
  · cases h

/-- Without the opening of a comment the inline tokens of a text are line breaks. -/
theorem commentsIn_eq_nil {s : Text} (h : ¬ "<!---".toList <:+: s) : commentsIn (inlinePieces s) = [] := by
  rw [inlinePieces]
  induction s using InlineToken.pattern.induction with
  | nil =>
    rw [Pattern.split]
    rfl
  | found s a r hread ih =>
    rw [InlineToken.pattern.split_of_read? hread]
    have hread : InlineToken.read? s = some (a, r) := hread
    unfold InlineToken.read? at hread
    split at hread
    · next hd => exact absurd (infix_of_readDirective? hd) h
    · obtain ⟨u, hu, he⟩ := Option.map_eq_some_iff.mp hread
      obtain ⟨rfl, rfl⟩ := Prod.mk.inj he
      obtain ⟨t, ht, hbreak⟩ := Option.bind_eq_some_iff.mp hu
      have hsuffix : u <:+ s := by
        rw [Text.eq_append_of_dropStart? ht]
        exact (suffix_of_closeBreak? hbreak).trans (List.suffix_append _ _)
      exact ih fun hs => h (hs.trans hsuffix.isInfix)
  | skip c s hread ih =>
    rw [InlineToken.pattern.split_cons hread, commentsIn_consChar]
    exact ih fun hs => h (hs.trans (List.suffix_cons c s).isInfix)

/-- The code that is collected, after an event. -/
def CodeState.after (k : CodeState) : Event → CodeState
  | .start (.code (.fenced info)) => ⟨true, true, info, []⟩
  | .start (.code .indented) => ⟨true, false, [], []⟩
  | .stop .code => ⟨false, k.fenced, [], []⟩
  | .text s => if k.active then { k with content := k.content ++ s } else k
  | .softBreak => if k.active then { k with content := k.content ++ ['\n'] } else k
  | _ => k

/-- The raw HTML that is collected, after an event. -/
def blockAfter (block : Option Text) : Event → Option Text
  | .start .htmlBlock => some []
  | .stop .htmlBlock => none
  | .html s => block.map (· ++ s)
  | .inlineHtml s => block.map (· ++ s)
  | _ => block

namespace Writer

variable {w : Writer} {s : Text}

theorem html_fst (h : w.commentsAt (.html s) = []) : (w.html s).1 = { w with block := w.block.map (· ++ s) } := by
  rw [commentsAt] at h
  obtain ⟨interpreter, codeMarker, suppressHtml, code, image, table, block⟩ := w
  cases block with
  | none => exact pieces_fst _ _ h
  | some collected => rfl

theorem step_stop_htmlBlock_fst (h : w.commentsAt (.stop .htmlBlock) = []) :
    (w.step (.stop .htmlBlock)).1 = { w with block := none } := by
  rw [commentsAt] at h
  obtain ⟨interpreter, codeMarker, suppressHtml, code, image, table, block⟩ := w
  cases block with
  | none => rfl
  | some collected => exact pieces_fst _ _ h

theorem text_fst (h : w.commentsAt (.text s) = []) :
    ∃ image, (w.text s).1 = { w with code := w.code.after (.text s), image := image } := by
  rw [commentsAt] at h
  rw [CodeState.after]
  unfold text
  split
  · exact ⟨w.image, rfl⟩
  · next hcode =>
    split
    · exact ⟨_, rfl⟩
    · next himage =>
      rw [if_neg (by simp [hcode, himage])] at h
      exact ⟨w.image, pieces_fst _ w h⟩

/-- Without comments an event changes what is collected, the image and the table. -/
theorem step_fst {e : Event} (h : w.commentsAt e = []) :
    ∃ image table, (w.step e).1 =
      { w with code := w.code.after e, image := image, table := table, block := blockAfter w.block e } := by
  cases e with
  | start tag =>
    cases tag with
    | code kind =>
      cases kind with
      | fenced info => exact ⟨w.image, w.table, rfl⟩
      | indented => exact ⟨w.image, w.table, rfl⟩
    | table alignments => exact ⟨w.image, _, rfl⟩
    | tableHead => exact ⟨w.image, _, rfl⟩
    | tableRow => exact ⟨w.image, _, rfl⟩
    | image url title => exact ⟨_, w.table, rfl⟩
    | _ => exact ⟨w.image, w.table, rfl⟩
  | stop tag =>
    cases tag with
    | htmlBlock => exact ⟨w.image, w.table, step_stop_htmlBlock_fst h⟩
    | tableHead => exact ⟨w.image, _, rfl⟩
    | tableCell => exact ⟨w.image, _, rfl⟩
    | image => exact ⟨_, w.table, rfl⟩
    | _ => exact ⟨w.image, w.table, rfl⟩
  | text s =>
    obtain ⟨image, hfst⟩ := text_fst h
    exact ⟨image, w.table, hfst⟩
  | html s => exact ⟨w.image, w.table, html_fst h⟩
  | inlineHtml s => exact ⟨w.image, w.table, html_fst h⟩
  | code s =>
    rw [step, inlineCode]
    split
    · exact ⟨_, w.table, rfl⟩
    · exact ⟨w.image, w.table, rfl⟩
  | softBreak =>
    rw [step, softBreak, CodeState.after]
    split
    · exact ⟨w.image, w.table, rfl⟩
    · exact ⟨w.image, w.table, rfl⟩
  | _ => exact ⟨w.image, w.table, rfl⟩

end Writer

/-- The raw HTML of all events. -/
def rawHtml (es : List Event) : Text :=
  es.flatMap fun
    | .html s => s
    | .inlineHtml s => s
    | _ => []

theorem rawHtml_cons (e : Event) (es : List Event) : rawHtml (e :: es) = rawHtml [e] ++ rawHtml es := by
  simp [rawHtml]

theorem commentsAt_eq_nil {w : Writer} {e : Event} (htext : ∀ s, e = .text s → ¬ "<!---".toList <:+: s)
    (hraw : ¬ "<!---".toList <:+: w.block.getD [] ++ rawHtml [e]) : w.commentsAt e = [] := by
  have hhtml : ∀ s, rawHtml [e] = s → w.block = none → commentsIn (inlinePieces s) = [] := by
    rintro s rfl hblock
    rw [hblock] at hraw
    exact commentsIn_eq_nil hraw
  cases e with
  | text s =>
    rw [Writer.commentsAt]
    split
    · rfl
    · exact commentsIn_eq_nil (htext s rfl)
  | html s =>
    rw [Writer.commentsAt]
    split
    · rfl
    · next hblock => exact hhtml s (by simp [rawHtml]) (by simpa using hblock)
  | inlineHtml s =>
    rw [Writer.commentsAt]
    split
    · rfl
    · next hblock => exact hhtml s (by simp [rawHtml]) (by simpa using hblock)
  | stop tag =>
    cases tag with
    | htmlBlock =>
      rw [Writer.commentsAt]
      cases hblock : w.block with
      | none => rfl
      | some collected =>
        rw [hblock] at hraw
        exact commentsIn_eq_nil fun h => hraw (h.trans (List.prefix_append _ _).isInfix)
    | _ => rfl
  | _ => rfl

theorem blockAfter_suffix (block : Option Text) (e : Event) :
    (blockAfter block e).getD [] <:+ block.getD [] ++ rawHtml [e] := by
  have hcollect : ∀ s, ((block.map (· ++ s)).getD [] : Text) <:+ block.getD [] ++ s := by
    intro s
    cases block with
    | none => exact List.nil_suffix
    | some collected => exact List.suffix_refl _
  have hsame : block.getD [] <:+ block.getD [] ++ [] := by
    simp
  cases e with
  | html s =>
    have hs : rawHtml [Event.html s] = s := by simp [rawHtml]
    rw [hs]
    exact hcollect s
  | inlineHtml s =>
    have hs : rawHtml [Event.inlineHtml s] = s := by simp [rawHtml]
    rw [hs]
    exact hcollect s
  | start tag =>
    cases tag with
    | htmlBlock => exact List.nil_suffix
    | _ => exact hsame
  | stop tag =>
    cases tag with
    | htmlBlock => exact List.nil_suffix
    | _ => exact hsame
  | _ => exact hsame

/-- The raw HTML still to be interpreted is what is collected and what is to come. -/
theorem comments_eq_nil {w : Writer} {es : List Event}
    (htexts : ∀ s, Event.text s ∈ es → ¬ "<!---".toList <:+: s)
    (hraw : ¬ "<!---".toList <:+: w.block.getD [] ++ rawHtml es) : w.comments es = [] := by
  induction es generalizing w with
  | nil => rfl
  | cons e es ih =>
    rw [rawHtml_cons, ← List.append_assoc] at hraw
    have hat : w.commentsAt e = [] := by
      apply commentsAt_eq_nil
      · rintro s rfl
        exact htexts s List.mem_cons_self
      · exact fun h => hraw (h.trans (List.prefix_append _ _).isInfix)
    rw [Writer.comments, hat, List.nil_append]
    apply ih fun s hs => htexts s (List.mem_cons_of_mem e hs)
    intro h
    obtain ⟨image, table, hw⟩ := Writer.step_fst hat
    rw [hw] at h
    obtain ⟨dropped, hd⟩ := blockAfter_suffix w.block e
    rw [← hd, List.append_assoc] at hraw
    exact hraw (h.trans (List.suffix_append _ _).isInfix)

theorem comments_ofConfig_eq_nil (c : RenderConfig) {es : List Event}
    (htexts : ∀ s, Event.text s ∈ es → Text.contains "<!---" s = false)
    (hraw : Text.contains "<!---" (rawHtml es) = false) : (Writer.ofConfig c).comments es = [] := by
  apply comments_eq_nil
  · intro s hs h
    rw [← Text.contains_iff_infix, htexts s hs] at h
    cases h
  · intro h
    rw [← Text.contains_iff_infix] at h
    exact Bool.false_ne_true (hraw.symm.trans h)

end Markweave.Html
