import Markweave.Proofs.Html.CodeEvents
import Markweave.Proofs.Markdown.Layout
import Markweave.Proofs.Rendering.LiveMarkup

namespace Markweave

open Markdown (NoEscapedFence SameEvents)
open Rendering (markdownOptions)
open Source (FencedPiece LaidOut beforeFences blankLines prepare prepareUnmarked)

theorem Markdown.sameEvents_of_marksInCode {opts : Options} {s : Text}
    (hempty : ∀ line ∈ (blankLines s).items, line = []) (hcode : MarksInCode opts (blankLines s))
    (hescape : NoEscapedFence (Source.protectFenced s)) :
    SameEvents (events opts (Source.protectFenced s)) (events opts (Source.unifyFenced s)) := by
  have horderly : BlockReader.Orderly .empty := by
    intro _ _ _ _ hleaf
    cases hleaf
  rw [← Source.write_blankLines_mark] at hescape ⊢
  rw [← Source.write_blankLines_id]
  exact sameEvents_of_matches (BlockReader.matches_run (Source.ownLines_blankLines s).1 hempty (.refl _) horderly
    hescape hcode)

namespace Renderer

theorem render_of_sameEvents (r : Renderer) (clock : Clock) {document : Text} {es : List Markdown.Event}
    (h : SameEvents (Rendering.events r.config document) es) : r.render clock document = r.renderEvents clock es := by
  have hsame := Rendering.ofEvents_of_sameEvents h r.config clock r.config.idScope.counter
  rw [render, renderEvents, renderEvents, hsame]

/-- The marks on blank lines cannot be seen in what is rendered, if the reader finds each of them inside fenced code
that no quote or list is around. In a quote or in an item a mark stands outside, and ends both. -/
theorem render_blankLines (r : Renderer) (clock : Clock) (document : Text)
    (hempty : ∀ line ∈ (blankLines (beforeFences document)).items, line = [])
    (hcode : Markdown.MarksInCode (markdownOptions r.config.extensions) (blankLines (beforeFences document)))
    (hescape : NoEscapedFence (prepare document)) :
    r.render clock document =
      r.renderEvents clock (Markdown.events (markdownOptions r.config.extensions) (prepareUnmarked document)) :=
  r.render_of_sameEvents clock (Markdown.sameEvents_of_marksInCode hempty hcode hescape)

/-- So it is where all fences that have a partner are at the margin. -/
theorem render_blankLines_of_laidOut (r : Renderer) (clock : Clock) (document : Text)
    (hempty : ∀ line ∈ (blankLines (beforeFences document)).items, line = [])
    (hlayout : LaidOut (beforeFences document)) (hescape : NoEscapedFence (prepare document)) :
    r.render clock document =
      r.renderEvents clock (Markdown.events (markdownOptions r.config.extensions) (prepareUnmarked document)) :=
  r.render_of_sameEvents clock
    (Markdown.sameEvents_of_marksInCode hempty (Markdown.marksInCode_of_laidOut hlayout hescape) hescape)

/-- Code behind a heading and a list. -/
def codeBehindList : FencedPiece where
  prose := ["# Title", "- item", "", "  more"].map String.toList
  info := "rust"
  code := ["let a = 1;", "", "", "  let b = 2;"].map String.toList
  proseLines := by decide +kernel
  infoLine := by decide +kernel
  codeLines := by decide +kernel

/-- Code behind a comment that is a directive. -/
def codeBehindDirective : FencedPiece where
  prose := ["<!---TOC--->"].map String.toList
  info := []
  code := ["", "~~~", "", "- [a"].map String.toList
  proseLines := by decide +kernel
  infoLine := by decide +kernel
  codeLines := by decide +kernel

def twoFences : Text := codeBehindList.write ++ '\n' :: (codeBehindDirective.write ++ "\n\n- ```".toList)

theorem render_blankLines_two_fences :
    render ⟨.default⟩ (fun _ => 0) twoFences = renderEvents ⟨.default⟩ (fun _ => 0)
      (Markdown.events (markdownOptions RenderConfig.default.extensions) (prepareUnmarked twoFences)) := by
  have hlayout : beforeFences twoFences = twoFences := by decide +kernel
  have hescape : NoEscapedFence (prepare twoFences) := by
    rintro u t hu v c w rfl
    have hmem : '\\' ∈ prepare twoFences := by simp [hu]
    exact absurd hmem (by decide +kernel)
  refine render_blankLines ⟨.default⟩ (fun _ => 0) twoFences (by decide +kernel) ?_ hescape
  refine Markdown.marksInCode_of_laidOut ?_ hescape
  rw [hlayout]
  exact .more codeBehindList (.last codeBehindDirective (by decide +kernel))

theorem not_forall_render_blankLines : ¬ ∀ document : Text,
    (∀ line ∈ Text.splitOn '\n' document, line ≠ "." ∧ (Source.isBlankLine line = true → line = [])) →
    render ⟨.default⟩ (fun _ => 0) document = renderEvents ⟨.default⟩ (fun _ => 0)
      (Markdown.events (markdownOptions RenderConfig.default.extensions) (prepareUnmarked document)) := by
  intro hall
  have hsame := congrArg (fun p => p.1.toOption) (hall "- ```\n  a\n\n  b\n  ```" (by decide +kernel))
  exact absurd hsame (by decide +kernel)

end Renderer
end Markweave
