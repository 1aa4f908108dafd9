import Markweave.Markdown.Document
import Markweave.Proofs.Markdown.Matches
import Markweave.Rendering

namespace Markweave.Markdown

open Source (SameCode)

/-- Events that are the same but for the text of fenced code, and that comes back the same. -/
inductive SameEvents : List Event → List Event → Prop
  | nil : SameEvents [] []
  | cons (e : Event) {es es' : List Event} (h : SameEvents es es') : SameEvents (e :: es) (e :: es')
  | code (info : Text) {c c' : Text} (hcode : SameCode c c') {es es' : List Event} (h : SameEvents es es') :
    SameEvents (.start (.code (.fenced info)) :: .text c :: .stop .code :: es)
      (.start (.code (.fenced info)) :: .text c' :: .stop .code :: es')

namespace SameEvents

variable {es es' : List Event}

theorem append_left (h : SameEvents es es') (before : List Event) : SameEvents (before ++ es) (before ++ es') := by
  induction before with
  | nil => exact h
  | cons e before ih => exact ih.cons e

theorem length_eq (h : SameEvents es es') : es'.length = es.length := by
  induction h with
  | nil => rfl
  | cons e h ih => simp [ih]
  | code info hcode h ih => simp [ih]

theorem mergeText (h : SameEvents es es') : SameEvents (Event.mergeText es) (Event.mergeText es') := by
  induction h with
  | nil => exact .nil
  | @cons e es es' h ih =>
    cases e with
    | text s =>
      rw [Event.mergeText, Event.mergeText]
      generalize Event.mergeText es = merged at ih
      generalize Event.mergeText es' = merged' at ih
      cases ih with
      | nil => exact .cons _ .nil
      | cons e h => cases e <;> exact .cons _ (by first | exact h | exact .cons _ h)
      | code info hcode h => exact .cons _ (.code info hcode h)
    | _ => exact .cons _ ih
  | code info hcode h ih => exact .code info hcode ih

end SameEvents

theorem sameEvents_of_blocks {bs bs' : List Block} (h : List.Forall₂ SameBlock bs bs') (r : TextReader) (tight : Bool) :
    SameEvents (Block.eventsOfList r tight bs) (Block.eventsOfList r tight bs') := by
  induction h with
  | nil => exact .nil
  | cons hblock _ ih =>
    rw [Block.eventsOfList, Block.eventsOfList]
    cases hblock with
    | same b => exact ih.append_left _
    | @code info c c' hcode =>
      rw [Block.events, Block.events]
      by_cases hc : c = []
      · rw [if_pos hc, if_pos (hcode.nil_iff.mp hc)]
        exact ih.append_left _
      · rw [if_neg hc, if_neg (hcode.nil_iff.not.mp hc)]
        exact .code info hcode ih

theorem sameEvents_of_matches {opts : Options} {s s' : Text}
    (h : Matches (BlockReader.run opts .empty 0 s) (BlockReader.run opts .empty 0 s')) :
    SameEvents (events opts s) (events opts s') := by
  rw [events, events, Document.events, Document.events, Document.read, Document.read]
  dsimp only
  rw [h.definitions_eq]
  exact (sameEvents_of_blocks h.finish _ _).mergeText

end Markweave.Markdown

namespace Markweave

open Markdown (SameEvents)

variable {es es' : List Markdown.Event}

theorem Html.Writer.run_of_sameEvents (h : SameEvents es es') (w : Writer) : w.run es' = w.run es := by
  induction h generalizing w with
  | nil => rfl
  | cons e h ih => simp only [run, ih]
  | @code info c c' hcode es es' h ih =>
    have hcontent := hcode.restore_append []
    rw [List.append_nil, List.append_nil] at hcontent
    simp only [run, step, start, startCode, text, stop, codeElement, if_true, List.nil_append, hcontent, ih]

theorem Rendering.ofEvents_of_sameEvents (h : SameEvents es es') (c : RenderConfig) (clock : Clock) (ids : IdCounter) :
    ofEvents c clock ids es' = ofEvents c clock ids es := by
  rw [ofEvents, ofEvents, serialize, serialize, h.length_eq, Html.write, Html.write, Html.Writer.run_of_sameEvents h]

end Markweave
