import Mathlib.Data.Bool.AllAny
import Markweave.Proofs.Markdown.Reads
import Markweave.Proofs.Rendering.LiveMarkup
import Markweave.Proofs.Rendering.Numbering
import Markweave.Proofs.Source.Fence

namespace Markweave

open Markdown (BlockReader.Reads)

/-- A line of words of letters, digits and dots. -/
structure IsWordLine (line : Text) : Prop where
  chars : ∀ c ∈ line, c.isAlphanum = true ∨ c = '.' ∨ c = ' '
  head : line.head? ≠ some ' '
  last : line.getLast? ≠ some ' '

/-- A line of backticks, the lines of code, and another line of backticks. -/
def fencedDocument (lines : List Text) (ending : Text) : Text :=
  Source.fence ++ ('\n' :: lines.flatMap (· ++ ['\n']) ++ (Source.fence ++ ending))

namespace IsWordLine

variable {line : Text}

theorem notMem (h : IsWordLine line) {c : Char} (hc : (c.isAlphanum || c == '.' || c == ' ') = false) :
    c ∉ line := by
  intro hmem
  rcases h.chars c hmem with h | rfl | rfl
  · simp [h] at hc
  · exact absurd hc (by decide)
  · exact absurd hc (by decide)

/-- Such a line is blank only when it is empty. -/
theorem eq_nil_of_isBlankLine (h : IsWordLine line) (hblank : Source.isBlankLine line = true) : line = [] := by
  cases line with
  | nil => rfl
  | cons c rest =>
    rw [Source.isBlankLine, List.all_cons, Bool.and_eq_true, Bool.or_eq_true, beq_iff_eq, beq_iff_eq] at hblank
    rcases hblank.1 with rfl | rfl
    · exact absurd rfl h.head
    · exact absurd List.mem_cons_self (h.notMem (c := '\t') (by decide))

theorem unmarked_marked (h : IsWordLine line) : Source.unmarked (Source.marked line) = Source.unmarked line := by
  rw [Source.marked]
  split
  · next hblank =>
    rw [h.eq_nil_of_isBlankLine hblank]
    rfl
  · rfl

theorem isCodeLine_marked (h : IsWordLine line) :
    Markdown.BlockReader.IsCodeLine ⟨'`', 3⟩ (Source.marked line) := by
  rw [Source.marked]
  split
  · exact ⟨⟨'.', [], rfl, by decide⟩, by decide, by decide⟩
  · next hblank =>
    refine ⟨?_, h.notMem (by decide), h.notMem (by decide)⟩
    cases line with
    | nil => exact absurd rfl hblank
    | cons c rest =>
      refine ⟨c, rest, rfl, ?_, ?_, ?_⟩
      · rintro rfl
        exact h.head rfl
      · rintro rfl
        exact h.notMem (c := '\t') (by decide) List.mem_cons_self
      · rintro rfl
        exact h.notMem (c := '`') (by decide) List.mem_cons_self

end IsWordLine

theorem mem_of_mem_unmarked {line : Text} {c : Char} (h : c ∈ Source.unmarked line) : c ∈ line := by
  rw [Source.unmarked] at h
  split at h
  · exact absurd h List.not_mem_nil
  · exact h

namespace Rendering

variable {lines : List Text} {ending : Text}

theorem prepare_fencedDocument (hlines : ∀ l ∈ lines, IsWordLine l) (hending : ending = [] ∨ ending = ['\n']) :
    Source.prepare (fencedDocument lines ending) = fencedDocument (lines.map Source.marked) ending := by
  have hother : ∀ {c : Char}, (c.isAlphanum || c == '.' || c == ' ') = false → c ≠ '\n' →
      c ∉ '\n' :: lines.flatMap (· ++ ['\n']) ∧ c ∉ ending := by
    intro c hc hnewline
    refine ⟨List.not_mem_cons_of_ne_of_not_mem hnewline
      (Text.notMem_lines hnewline fun l hl => (hlines l hl).notMem hc), ?_⟩
    rcases hending with rfl | rfl
    · exact List.not_mem_nil
    · simpa using hnewline
  have hplain : ∀ {c : Char}, (c.isAlphanum || c == '.' || c == ' ') = false → c ≠ '\n' → c ∉ Source.fence →
      c ∉ fencedDocument lines ending := by
    intro c hc hnewline hfence
    obtain ⟨hlines, hending⟩ := hother hc hnewline
    simp only [fencedDocument, List.mem_append, not_or]
    exact ⟨hfence, hlines, hfence, hending⟩
  rw [Source.prepare_of_plain, fencedDocument,
    Source.protectFenced_fenced (hother (by decide) (by decide)).1 (hother (by decide) (by decide)).2,
    Source.protectBlankLines_lines fun l hl => ⟨(hlines l hl).notMem (by decide), (hlines l hl).notMem (by decide)⟩]
  · rfl
  · intro c hc
    refine ⟨?_, ?_, ?_, ?_⟩
    all_goals
      rintro rfl
      exact hplain (by decide) (by decide) (by decide) hc

/-- The events of one piece of code. -/
theorem events_fencedDocument {opts : Markdown.Options}
    (hlines : ∀ l ∈ lines, Markdown.BlockReader.IsCodeLine ⟨'`', 3⟩ l) (hne : lines ≠ [])
    (hending : ending = [] ∨ ending = ['\n']) :
    Markdown.events opts (fencedDocument lines ending) =
      [.start (.code (.fenced [])), .text (lines.flatMap (· ++ ['\n'])), .stop .code] := by
  have hrun : Markdown.BlockReader.run opts .empty 0 _ = _ := Markdown.BlockReader.run_fenced hlines hending
  have hcode : lines.flatMap (· ++ ['\n']) ≠ [] := by
    obtain ⟨first, more, rfl⟩ := List.exists_cons_of_ne_nil hne
    simp
  have hdocument : fencedDocument lines ending =
    '`' :: '`' :: '`' :: '\n' :: (lines.flatMap (· ++ ['\n']) ++ '`' :: '`' :: '`' :: ending) := rfl
  rw [Markdown.events, Markdown.Document.read, hdocument, hrun]
  simp [Markdown.Document.events, Markdown.Outline.finish, Markdown.Outline.closeLeaf, Markdown.Outline.empty,
    Markdown.Leaf.toBlock?, Markdown.Block.eventsOfList, Markdown.Block.events, hcode, Markdown.Event.within,
    Markdown.Event.mergeText, Markdown.Tag.stop]

theorem run_code (w : Html.Writer) (info content : Text) :
    (w.run [.start (.code (.fenced info)), .text content, .stop .code]).2 =
      { w with code := ⟨true, true, info, content⟩ : Html.Writer }.codeElement := rfl

theorem writeAll_code (c : RenderConfig) (info content : Text) :
    Html.writeAll (Html.write c [.start (.code (.fenced info)), .text content, .stop .code]) =
      (Diagram.CodeBlock.mk (Html.escapeLenient info)
        (Html.escapeLenient (Source.restoreBlankLines content))).write c.codeMarker := by
  rw [Html.write, run_code]
  exact Html.writeAll_codeElement rfl

/-- Extraction takes a piece of code that stands alone. -/
theorem extract_block {stylePrefix : Text} (hstyle : '<' ∉ stylePrefix) {b : Diagram.CodeBlock} (hb : b.Sound)
    (n : UInt64) :
    (Diagram.extract stylePrefix ⟨n⟩ (b.write (stylePrefix ++ "md-code"))).1 = b.placeholder stylePrefix n := by
  let only : Interleaved Diagram.Item := ⟨[], [(.code b, [])]⟩
  have hgaps : ∀ g ∈ only.gaps, Diagram.HoldsCodeInline (stylePrefix ++ "md-code") g := by
    intro g hg
    have hnil : g = [] := by simpa [only, Interleaved.gaps] using hg
    rw [hnil]
    exact .of_notMem List.not_mem_nil
  have hitems : ∀ i ∈ only.items, i.Fits (stylePrefix ++ "md-code") := by
    intro i hi
    obtain rfl := List.mem_singleton.mp hi
    exact hb
  have hwrite : ∀ f : Diagram.Item → Text, only.write f = f (.code b) := by
    intro f
    simp [only, Interleaved.write, Interleaved.writeRest]
  have hindexed : ∀ f : Diagram.Item × Nat → Text, only.indexed.write f = f (.code b, 0) := by
    intro f
    simp [only, Interleaved.indexed, Interleaved.write, Interleaved.writeRest]
  have hnumber : Diagram.numbered only n (.code b, 0) = n := by
    simp [Diagram.numbered, Diagram.rank, only, Interleaved.items]
  have hextract := Diagram.extract_items (n := n) hstyle hgaps hitems
  rw [hwrite, hindexed, hnumber] at hextract
  exact congrArg Prod.fst hextract

/-- Headings are all that the last pass changes. -/
theorem inject_of_quiet {html : Text} (h : html.AtTags (Html.startsNoHeading · = true)) (ids : IdCounter) :
    (HeadingIds.inject ids html).1 = html := by
  have hquiet := HeadingIds.tag.renumber_quiet HeadingIds.writeTag (HeadingIds.quiet_of_startsNoHeading h) ids []
  rw [List.append_nil, Pattern.renumber_nil, List.append_nil] at hquiet
  exact congrArg Prod.fst hquiet

theorem placeholder_untagged (body : Text) :
    (Diagram.CodeBlock.mk [] body).placeholder "jsh-" 1 =
      "<pre><code id=\"inlineCode1\" class=\"jsh-code txt\">".toList ++ body ++ "</code></pre>".toList := by
  have hkind : DiagramKind.all[(Diagram.CodeBlock.mk [] body).pass]? = none := rfl
  have hopen : "<pre><code id=\"inlineCode".toList ++ UInt64.text 1 ++ "\" class=\"".toList ++ "jsh-".toList ++
      "code txt\">".toList = "<pre><code id=\"inlineCode1\" class=\"jsh-code txt\">".toList := by decide
  have hcode : (Diagram.CodeBlock.mk [] body).placeholder "jsh-" 1 = Diagram.codePlaceholder "jsh-" 1 body := by
    rw [Diagram.CodeBlock.placeholder, hkind]
  exact hcode.trans (congrArg (· ++ body ++ "</code></pre>".toList) hopen)

theorem finish_code {body : Text} (hbody : ∀ c ∈ body, c ≠ '<' ∧ c ≠ '&' ∧ c ≠ '\u2026' ∧ Diagram.isBodyChar c = true) :
    (finish "jsh-" .first ((Diagram.CodeBlock.mk [] body).write "jsh-md-code")).1 =
      "<pre><code id=\"inlineCode1\" class=\"jsh-code txt\">".toList ++ body ++ "</code></pre>".toList := by
  have hsound : (Diagram.CodeBlock.mk [] body).Sound :=
    ⟨fun c hc => absurd hc List.not_mem_nil, fun c hc => ⟨(hbody c hc).1, (hbody c hc).2.2.2⟩⟩
  have hellipsis : Source.ellipsis.apply ((Diagram.CodeBlock.mk [] body).write "jsh-md-code") =
      (Diagram.CodeBlock.mk [] body).write "jsh-md-code" := by
    apply Text.replace_of_notMem (c := '\u2026') _ (by decide)
    simp only [Diagram.CodeBlock.write, List.mem_append, List.mem_cons, not_or]
    refine ⟨by decide, List.not_mem_nil, by decide, ?_, by decide⟩
    exact fun hc => (hbody _ hc).2.2.1 rfl
  have hlt : '<' ∉ body := fun hc => (hbody _ hc).1 rfl
  have hquiet : ((Diagram.CodeBlock.mk [] body).placeholder "jsh-" 1).AtTags (Html.startsNoHeading · = true) :=
    Diagram.CodeBlock.atTags_placeholder (fun _ s h => Html.startsNoHeading_append h s) (by decide) (by decide) hlt 1
  have hrespell : respell ((Diagram.CodeBlock.mk [] body).placeholder "jsh-" 1) =
      (Diagram.CodeBlock.mk [] body).placeholder "jsh-" 1 := by
    apply respell_of_notMem
    rw [placeholder_untagged]
    simp only [List.mem_append, not_or]
    exact ⟨⟨by decide, fun hc => (hbody _ hc).2.1 rfl⟩, by decide⟩
  have hmarker : "jsh-".toList ++ "md-code".toList = "jsh-md-code".toList := by decide
  have hextract := extract_block (show '<' ∉ "jsh-".toList by decide) hsound 1
  rw [hmarker] at hextract
  rw [finish, hellipsis, numberElements]
  change (HeadingIds.inject _ (respell (Diagram.extract "jsh-" ⟨1⟩ _).1)).1 = _
  rw [hextract, hrespell, inject_of_quiet hquiet, placeholder_untagged]

theorem overrun?_eq_none {limit : Nat} {clock : Clock} (h : ∀ i, clock i ≤ limit) (events : Nat) :
    overrun? limit clock events = none := by
  simp [overrun?, h]

end Rendering

namespace Renderer

open Rendering

theorem render_eq_ok {r : Renderer} {clock : Clock} (hclock : ∀ i, clock i ≤ r.config.timeLimit * 1000000)
    (document : Text) :
    (r.render clock document).1 = .ok (finish r.config.stylePrefix r.counter
      (Html.writeAll (Html.write r.config (Rendering.events r.config document)))).1 := by
  rw [render, renderEvents, ofEvents_inTime (overrun?_eq_none hclock _)]
  rfl

theorem isBodyChar_of_isAlphanum {c : Char} (h : c.isAlphanum = true) : Diagram.isBodyChar c = true := by
  have hrange := Html.range_of_isAlphanum h
  simp only [Diagram.isBodyChar, Bool.or_eq_true, Bool.and_eq_true, decide_eq_true_eq]
  left; left; left
  omega

/-- Lines of code come back as they are, but a line with a single dot comes back empty. -/
theorem render_fenced {lines : List Text} {ending : Text} {clock : Clock} (hne : lines ≠ [])
    (hlines : ∀ l ∈ lines, IsWordLine l) (hending : ending = [] ∨ ending = ['\n'])
    (hclock : ∀ i, clock i ≤ RenderConfig.default.timeLimit * 1000000) :
    (render ⟨.default⟩ clock (fencedDocument lines ending)).1 =
      .ok ("<pre><code id=\"inlineCode1\" class=\"jsh-code txt\">".toList ++
        (lines.map Source.unmarked).flatMap (· ++ ['\n']) ++ "</code></pre>".toList) := by
  let content : Text := (lines.map Source.marked).flatMap (· ++ ['\n'])
  let shown : Text := (lines.map Source.unmarked).flatMap (· ++ ['\n'])
  have hcode : ∀ l ∈ lines.map Source.marked, Markdown.BlockReader.IsCodeLine ⟨'`', 3⟩ l := by
    intro l hl
    obtain ⟨line, hline, rfl⟩ := List.mem_map.mp hl
    exact (hlines line hline).isCodeLine_marked
  have hevents : Rendering.events .default (fencedDocument lines ending) =
      [.start (.code (.fenced [])), .text content, .stop .code] := by
    rw [Rendering.events, prepare_fencedDocument hlines hending]
    exact events_fencedDocument hcode (by simpa using hne) hending
  have hrestored : Source.restoreBlankLines content = shown := by
    have hsame : (lines.map Source.marked).map Source.unmarked = lines.map Source.unmarked := by
      rw [List.map_map]
      exact List.map_congr_left fun l hl => (hlines l hl).unmarked_marked
    rw [Source.restoreBlankLines_lines fun l hl => (hcode l hl).newline, hsame]
  have hshown : ∀ c ∈ shown, c.isAlphanum = true ∨ c = '.' ∨ c = ' ' ∨ c = '\n' := by
    intro c hc
    simp only [shown, List.flatMap_map, List.mem_flatMap, List.mem_append, List.mem_singleton] at hc
    obtain ⟨l, hl, hc | rfl⟩ := hc
    · rcases (hlines l hl).chars c (mem_of_mem_unmarked hc) with h | h | h
      · exact .inl h
      · exact .inr (.inl h)
      · exact .inr (.inr (.inl h))
    · exact .inr (.inr (.inr rfl))
  have hplain : ∀ c ∈ shown, c ≠ '<' ∧ c ≠ '&' ∧ c ≠ '>' ∧ c ≠ '\u2026' ∧ Diagram.isBodyChar c = true := by
    intro c hc
    rcases hshown c hc with h | rfl | rfl | rfl
    · refine ⟨?_, ?_, ?_, ?_, isBodyChar_of_isAlphanum h⟩
      all_goals
        rintro rfl
        exact absurd h (by decide)
    all_goals decide
  have hescaped : Html.escapeLenient shown = shown := by
    have happ := Html.escapeLenient_append_plain
      (fun c hc => ⟨(hplain c hc).2.1, (hplain c hc).1, (hplain c hc).2.2.1⟩) []
    rwa [List.append_nil, Html.escapeLenient, List.append_nil] at happ
  have hmarker : RenderConfig.default.codeMarker = "jsh-md-code".toList := by decide
  have hfinish := finish_code fun c hc =>
    ⟨(hplain c hc).1, (hplain c hc).2.1, (hplain c hc).2.2.2.1, (hplain c hc).2.2.2.2⟩
  have hrender := render_eq_ok (r := ⟨.default⟩) hclock (fencedDocument lines ending)
  dsimp only at hrender
  rw [hevents, writeAll_code, hrestored, hescaped, hmarker] at hrender
  exact hrender.trans (congrArg Except.ok hfinish)

theorem render_fenced_blank_line_between :
    (∀ l ∈ ["fn a".toList, [], "b.".toList], IsWordLine l) ∧
      (render ⟨.default⟩ (fun _ => 0) "```\nfn a\n\nb.\n```").1 =
        .ok "<pre><code id=\"inlineCode1\" class=\"jsh-code txt\">fn a\n\nb.\n</code></pre>" := by
  have hlines : ∀ l ∈ ["fn a".toList, [], "b.".toList], IsWordLine l := by
    simp only [List.forall_mem_cons]
    refine ⟨⟨?_, by decide, by decide⟩, ⟨?_, by decide, by decide⟩, ⟨?_, by decide, by decide⟩, by simp⟩
    all_goals exact List.all_iff_forall_prop.mp rfl
  have hshown : "<pre><code id=\"inlineCode1\" class=\"jsh-code txt\">".toList ++
      (["fn a".toList, [], "b.".toList].map Source.unmarked).flatMap (· ++ ['\n']) ++ "</code></pre>".toList =
        "<pre><code id=\"inlineCode1\" class=\"jsh-code txt\">fn a\n\nb.\n</code></pre>".toList := by decide
  have hclock : ∀ i, (fun _ => 0 : Clock) i ≤ RenderConfig.default.timeLimit * 1000000 := fun _ => Nat.zero_le _
  have hrender := render_fenced (by decide) hlines (.inl rfl) hclock
  exact ⟨hlines, hrender.trans (congrArg Except.ok hshown)⟩

/-- A line of code that looks like the mark of a blank line is lost. -/
theorem not_forall_render_fenced : ¬ ∀ (lines : List Text) (clock : Clock), lines ≠ [] →
    (∀ l ∈ lines, IsWordLine l) → (∀ i, clock i ≤ RenderConfig.default.timeLimit * 1000000) →
    (render ⟨.default⟩ clock (fencedDocument lines [])).1 =
      .ok ("<pre><code id=\"inlineCode1\" class=\"jsh-code txt\">".toList ++ lines.flatMap (· ++ ['\n']) ++
        "</code></pre>".toList) := by
  intro hall
  have hdot : IsWordLine ".".toList := ⟨List.all_iff_forall_prop.mp rfl, by decide, by decide⟩
  have hclaimed := hall [".".toList] (fun _ => 0) (by decide) (by simpa using hdot) fun _ => Nat.zero_le _
  have hok : (render ⟨.default⟩ (fun _ => 0) (fencedDocument [".".toList] [])).1 =
      .ok "<pre><code id=\"inlineCode1\" class=\"jsh-code txt\">\n</code></pre>" :=
    Except.toOption_eq_some_iff.mp (by decide +kernel)
  exact absurd (Except.ok.inj (hok.symm.trans hclaimed)) (by decide)

end Renderer
end Markweave
