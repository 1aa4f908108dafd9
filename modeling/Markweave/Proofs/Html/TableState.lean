import Markweave.Html.Writer
import Markweave.Proofs.Markdown.WellNested

namespace Markweave.Html.Writer

open Markdown (Event)

variable {w : Writer} {t : TableState}

def setTable (w : Writer) (t : TableState) : Writer := { w with table := t }

theorem pieces_setTable {writePlain : Writer → Text → List Markup}
    (hplain : ∀ w s, writePlain (setTable w t) s = writePlain w s) (w : Writer) (ps : List (Piece InlineToken)) :
    pieces writePlain (w.setTable t) ps = ((pieces writePlain w ps).1.setTable t, (pieces writePlain w ps).2) := by
  induction ps generalizing w with
  | nil => rfl
  | cons p ps ih =>
    match p with
    | .plain s => simp only [pieces, ih, hplain]
    | .found .lineBreak =>
      simp only [pieces, ih]
      rfl
    | .found (.directive raw) =>
      have hdirective : (w.setTable t).directive raw = ((w.directive raw).1.setTable t, (w.directive raw).2) := rfl
      simp only [pieces, hdirective, ih]

theorem html_setTable (w : Writer) (s : Text) :
    (w.setTable t).html s = ((w.html s).1.setTable t, (w.html s).2) := by
  have hblock : (w.setTable t).block = w.block := rfl
  rw [html, html, hblock]
  cases w.block with
  | some collected => rfl
  | none => exact pieces_setTable (fun _ _ => rfl) w (inlinePieces s)

theorem stopBlock_setTable (w : Writer) :
    (w.setTable t).stopBlock = (w.stopBlock.1.setTable t, w.stopBlock.2) := by
  have hblock : (w.setTable t).block = w.block := rfl
  rw [stopBlock, stopBlock, hblock]
  cases w.block with
  | some collected => exact pieces_setTable (fun _ _ => rfl) { w with block := none } (inlinePieces collected)
  | none => rfl

theorem step_setTable (w : Writer) {e : Event} (he : e.isFree = true) :
    (w.setTable t).step e = ((w.step e).1.setTable t, (w.step e).2) := by
  cases e with
  | start tag =>
    cases tag with
    | table alignments => cases he
    | tableHead => cases he
    | tableRow => cases he
    | tableCell => cases he
    | code kind => cases kind <;> rfl
    | _ => rfl
  | stop tag =>
    cases tag with
    | table => cases he
    | tableHead => cases he
    | tableRow => cases he
    | tableCell => cases he
    | htmlBlock => exact stopBlock_setTable w
    | _ => rfl
  | text s =>
    have hcode : (w.setTable t).code = w.code := rfl
    have himage : (w.setTable t).image = w.image := rfl
    rw [step, step, text, text, hcode, himage]
    split
    · rfl
    · split
      · rfl
      · exact pieces_setTable (fun _ _ => rfl) w (inlinePieces s)
  | code s =>
    have himage : (w.setTable t).image = w.image := rfl
    rw [step, step, inlineCode, inlineCode, himage]
    split <;> rfl
  | html s => exact html_setTable w s
  | inlineHtml s => exact html_setTable w s
  | softBreak =>
    have hcode : (w.setTable t).code = w.code := rfl
    rw [step, step, softBreak, softBreak, hcode]
    split <;> rfl
  | _ => rfl

/-- So it stays as it is. -/
theorem step_table (w : Writer) {e : Event} (he : e.isFree = true) : (w.step e).1.table = w.table :=
  congrArg (fun result => result.1.table) (step_setTable (t := w.table) w he)

theorem run_setTable (w : Writer) {es : List Event} (hes : ∀ e ∈ es, e.isFree = true) :
    (w.setTable t).run es = ((w.run es).1.setTable t, (w.run es).2) := by
  induction es generalizing w with
  | nil => rfl
  | cons e es ih =>
    rw [List.forall_mem_cons] at hes
    simp only [run, step_setTable w hes.1, ih _ hes.2]

end Markweave.Html.Writer
