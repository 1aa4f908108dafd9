import Markweave.Html.Writer
import Markweave.Proofs.Directive.Written
import Markweave.Proofs.Html.Escape

namespace Markweave.Html

open Text (Over)
open Directive (CommentUses)
open Markdown (Event Tag StopTag)

theorem all_isValueChar_escapeChar (d : Char) : (escapeChar d).all isValueChar = true := by
  unfold escapeChar
  split
  all_goals try decide
  next hlt hgt hquot _ =>
    have hd : isValueChar d = true := by simpa [isValueChar, and_assoc] using ⟨hlt, hgt, hquot⟩
    rw [List.all_cons, hd]
    rfl

theorem all_isValueChar_escape (s : Text) : (escape s).all isValueChar = true := by
  apply List.all_eq_true.mpr
  intro c hc
  obtain ⟨d, _, hd⟩ := List.mem_flatMap.mp hc
  exact List.all_eq_true.mp (all_isValueChar_escapeChar d) c hd

theorem all_isValueChar_ofNat (n : Nat) : (Text.ofNat n).all isValueChar = true := by
  apply List.all_eq_true.mpr
  intro c hc
  exact isValueChar_of_class rfl rfl rfl (Nat.isDigit_of_mem_toDigits (by decide) (by decide) hc)

/-- The comments among the pieces of running text. -/
def commentsIn (ps : List (Piece InlineToken)) : List Text :=
  ps.filterMap fun
    | .found (.directive raw) => some raw
    | _ => none

namespace Writer

/-- The comments that are interpreted at an event. -/
def commentsAt (w : Writer) : Event → List Text
  | .text s => if w.code.active || w.image.active then [] else commentsIn (inlinePieces s)
  | .html s => if w.block.isSome then [] else commentsIn (inlinePieces s)
  | .inlineHtml s => if w.block.isSome then [] else commentsIn (inlinePieces s)
  | .stop .htmlBlock => w.block.elim [] fun collected => commentsIn (inlinePieces collected)
  | _ => []

/-- The comments that are interpreted in a run, in their order. -/
def comments : Writer → List Event → List Text
  | _, [] => []
  | w, e :: es => w.commentsAt e ++ comments (w.step e).1 es

/-- Without comments the pieces of running text leave the writer as it is. -/
theorem pieces_fst (writePlain : Writer → Text → List Markup) (w : Writer)
    {ps : List (Piece InlineToken)} (h : commentsIn ps = []) : (pieces writePlain w ps).1 = w := by
  induction ps with
  | nil => rfl
  | cons p ps ih =>
    match p with
    | .plain s => exact ih h
    | .found .lineBreak => exact ih h
    | .found (.directive raw) => cases h

/-- All that the writer has by itself keeps to the class of characters, and raw HTML is suppressed. -/
structure Over (A : Char → Prop) (app : Text) (w : Writer) : Prop where
  interpreter : w.interpreter.Over A app
  codeMarker : Text.Over A w.codeMarker
  suppress : w.suppressHtml = true

end Writer

section

variable {A : Char → Prop} (hA : ∀ c, isValueChar c = true → A c) {app : Text} {w : Writer} (hw : w.Over A app)
include hA hw

omit hw in
theorem over_of_all {t : Text} (h : t.all isValueChar = true) : Over A t :=
  fun c hc => hA c (List.all_eq_true.mp h c hc)

theorem openTag_uses {opens : List Text} {name : Text} (hn : name ∈ opens) :
    (w.openTag name).Uses opens A := ⟨hn, hw.interpreter.styles.classAttribute (hA ' ' rfl) name⟩

omit hA hw in
theorem escaped_uses {opens : List Text} (s : Text) : (Markup.verbatim (escape s)).Uses opens A :=
  lt_notMem_escape s

theorem plainText_uses (s : Text) : AllUse plainNames A (w.plainText s) := by
  unfold Writer.plainText
  split
  · next left right _ =>
    exact Directive.splitter_uses hw.interpreter (hA ' ' rfl) (over_of_all hA (all_isValueChar_escape left))
      (over_of_all hA (all_isValueChar_escape right))
  · exact .one (escaped_uses s)

omit hA in
theorem rawText_uses (s : Text) : AllUse plainNames A (w.rawText s) := by
  unfold Writer.rawText
  rw [if_pos hw.suppress]
  have hs : (Markup.verbatim (escapeLenient s)).Uses plainNames A := lt_notMem_escapeLenient s
  exact .one hs

omit hA in
theorem directive_uses {raw : Text} (hraw : CommentUses A app raw) :
    AllUse plainNames A (w.directive raw).2 ∧ (w.directive raw).1.Over A app := by
  obtain ⟨huses, hover⟩ := hraw w.interpreter hw.interpreter
  exact ⟨huses, hover, hw.codeMarker, hw.suppress⟩

/-- The induction over the pieces carries the writer, whose interpreter changes with every directive. -/
theorem pieces_uses {writePlain : Writer → Text → List Markup}
    (hplain : ∀ w : Writer, w.Over A app → ∀ s, AllUse plainNames A (writePlain w s))
    {ps : List (Piece InlineToken)} (hps : ∀ raw ∈ commentsIn ps, CommentUses A app raw) :
    AllUse plainNames A (Writer.pieces writePlain w ps).2 ∧ (Writer.pieces writePlain w ps).1.Over A app := by
  induction ps generalizing w with
  | nil => exact ⟨.nil, hw⟩
  | cons p ps ih =>
    match p with
    | .plain s =>
      obtain ⟨huses, hover⟩ := ih hw hps
      exact ⟨(hplain w hw s).append huses, hover⟩
    | .found .lineBreak =>
      obtain ⟨huses, hover⟩ := ih hw hps
      exact ⟨huses.cons (openTag_uses hA hw (by decide)), hover⟩
    | .found (.directive raw) =>
      have hps : ∀ r ∈ raw :: commentsIn ps, CommentUses A app r := hps
      obtain ⟨hfirst, hw'⟩ := directive_uses hw (hps raw List.mem_cons_self)
      obtain ⟨huses, hover⟩ := ih hw' fun r hr => hps r (List.mem_cons_of_mem raw hr)
      exact ⟨hfirst.append huses, hover⟩

theorem text_uses {s : Text} (hs : ∀ raw ∈ w.commentsAt (.text s), CommentUses A app raw) :
    AllUse plainNames A (w.text s).2 ∧ (w.text s).1.Over A app := by
  rw [Writer.commentsAt] at hs
  unfold Writer.text
  split
  · exact ⟨.nil, hw.interpreter, hw.codeMarker, hw.suppress⟩
  · split
    · exact ⟨.nil, hw.interpreter, hw.codeMarker, hw.suppress⟩
    · next hcode himage =>
      rw [if_neg (by simp [hcode, himage])] at hs
      exact pieces_uses hA hw (fun _ hw s => plainText_uses hA hw s) hs

theorem rawHtml_uses {s : Text} (hs : ∀ raw ∈ commentsIn (inlinePieces s), CommentUses A app raw) :
    AllUse plainNames A (w.rawHtml s).2 ∧ (w.rawHtml s).1.Over A app :=
  pieces_uses hA hw (fun _ hw s => rawText_uses hw s) hs

theorem html_uses {s : Text} (hs : ∀ raw ∈ w.commentsAt (.html s), CommentUses A app raw) :
    AllUse plainNames A (w.html s).2 ∧ (w.html s).1.Over A app := by
  unfold Writer.html
  split
  · exact ⟨.nil, hw.interpreter, hw.codeMarker, hw.suppress⟩
  · next hblock =>
    rw [Writer.commentsAt, hblock] at hs
    exact rawHtml_uses hA hw hs

theorem stopBlock_uses (hs : ∀ raw ∈ w.commentsAt (.stop .htmlBlock), CommentUses A app raw) :
    AllUse plainNames A w.stopBlock.2 ∧ w.stopBlock.1.Over A app := by
  unfold Writer.stopBlock
  split
  · next collected hblock =>
    rw [Writer.commentsAt, hblock] at hs
    have hw' : { w with block := none }.Over A app := ⟨hw.interpreter, hw.codeMarker, hw.suppress⟩
    exact rawHtml_uses hA hw' hs
  · exact ⟨.nil, hw⟩

omit hA hw in
theorem cellName_mem (t : TableState) : t.cellName ∈ plainNames := by
  unfold TableState.cellName
  split
  · decide
  · decide

omit hw in
theorem attribute_over {name value : Text} (hn : name.all Char.isAlphanum = true)
    (hv : value.all isValueChar = true) : (Attribute.of name value).Over A := .of hn (over_of_all hA hv)

omit hw in
theorem titleAttribute_over (title : Text) : ∀ a ∈ Writer.titleAttribute title, a.Over A := by
  unfold Writer.titleAttribute
  split
  · exact fun a ha => absurd ha List.not_mem_nil
  · intro a ha
    rw [List.mem_singleton] at ha
    subst ha
    exact attribute_over hA (by decide) (all_isValueChar_escape title)

theorem startList_uses (first : Option Nat) : (w.startList first).Uses plainNames A := by
  unfold Writer.startList
  split
  · exact openTag_uses hA hw (by decide)
  · exact openTag_uses hA hw (by decide)
  · next n _ =>
    refine ⟨by decide, ?_⟩
    intro a ha
    rcases List.mem_append.mp ha with ha | ha
    · exact hw.interpreter.styles.classAttribute (hA ' ' rfl) _ a ha
    · rw [List.mem_singleton] at ha
      subst ha
      exact attribute_over hA (by decide) (all_isValueChar_ofNat n)

theorem cell_uses :
    (Markup.opening w.table.cellName
      (w.classAttribute w.table.cellName ++ w.table.alignAttribute)).Uses plainNames A := by
  refine ⟨cellName_mem w.table, ?_⟩
  intro a ha
  rcases List.mem_append.mp ha with ha | ha
  · exact hw.interpreter.styles.classAttribute (hA ' ' rfl) _ a ha
  · unfold TableState.alignAttribute at ha
    split at ha
    · rw [List.mem_singleton] at ha
      subst ha
      exact attribute_over hA (by decide) (by decide)
    · rw [List.mem_singleton] at ha
      subst ha
      exact attribute_over hA (by decide) (by decide)
    · rw [List.mem_singleton] at ha
      subst ha
      exact attribute_over hA (by decide) (by decide)
    · exact absurd ha List.not_mem_nil
    · exact absurd ha List.not_mem_nil

theorem link_uses (url title : Text) :
    (Markup.opening "a" (w.classAttribute "a" ++ .of "href" (escape url) ::
      Writer.titleAttribute title)).Uses plainNames A := by
  refine ⟨by decide, ?_⟩
  intro a ha
  rcases List.mem_append.mp ha with ha | ha
  · exact hw.interpreter.styles.classAttribute (hA ' ' rfl) _ a ha
  · rcases List.mem_cons.mp ha with rfl | ha
    · exact attribute_over hA (by decide) (all_isValueChar_escape url)
    · exact titleAttribute_over hA title a ha

theorem image_uses : w.imageElement.Uses plainNames A := by
  refine ⟨by decide, ?_⟩
  intro a ha
  rcases List.mem_append.mp ha with ha | ha
  · exact hw.interpreter.styles.classAttribute (hA ' ' rfl) _ a ha
  · rcases List.mem_cons.mp ha with rfl | ha
    · exact attribute_over hA (by decide) (all_isValueChar_escape _)
    · rcases List.mem_cons.mp ha with rfl | ha
      · exact attribute_over hA (by decide) (all_isValueChar_escape _)
      · exact titleAttribute_over hA _ a ha

theorem start_uses {tag : Tag} (hheading : ∀ level, tag ≠ .heading level) :
    AllUse plainNames A (w.start tag).2 := by
  have hopen : ∀ {name : Text}, name ∈ plainNames → (w.openTag name).Uses plainNames A := openTag_uses hA hw
  have hbare : ∀ {name : Text}, name ∈ plainNames → (Writer.plain name).Uses plainNames A :=
    fun hn => ⟨hn, fun a ha => absurd ha List.not_mem_nil⟩
  cases tag with
  | heading level => exact absurd rfl (hheading level)
  | paragraph => exact .one (hopen (by decide))
  | blockQuote => exact .one (hopen (by decide))
  | code kind => exact .nil
  | htmlBlock => exact .nil
  | list first => exact .one (startList_uses hA hw first)
  | item => exact .one (hopen (by decide))
  | footnote label => exact .nil
  | metadata => exact .nil
  | definitionList => exact .one (hopen (by decide))
  | definitionTitle => exact .one (hopen (by decide))
  | definition => exact .one (hopen (by decide))
  | table alignments => exact .one (hopen (by decide))
  | tableHead => exact .cons (hopen (by decide)) (.one (hopen (by decide)))
  | tableRow => exact .one (hopen (by decide))
  | tableCell => exact .one (cell_uses hA hw)
  | emphasis => exact .one (hbare (by decide))
  | strong => exact .one (hbare (by decide))
  | strikethrough => exact .one (hbare (by decide))
  | superscript => exact .one (hbare (by decide))
  | subscript => exact .one (hbare (by decide))
  | link url title => exact .one (link_uses hA hw url title)
  | image url title => exact .nil

theorem stop_uses {tag : StopTag} (hcode : tag ≠ .code)
    (hs : ∀ raw ∈ w.commentsAt (.stop tag), CommentUses A app raw) : AllUse plainNames A (w.stop tag).2 := by
  have hclose : ∀ {name : Text}, name ∈ tagNames → (Markup.closing name).Uses plainNames A := fun hn => hn
  cases tag with
  | code => exact absurd rfl hcode
  | htmlBlock => exact (stopBlock_uses hA hw hs).1
  | paragraph => exact .one (hclose (by decide))
  | heading level =>
    cases level with
    | h1 => exact .one (hclose (by decide))
    | h2 => exact .one (hclose (by decide))
    | h3 => exact .one (hclose (by decide))
    | h4 => exact .one (hclose (by decide))
    | h5 => exact .one (hclose (by decide))
    | h6 => exact .one (hclose (by decide))
  | blockQuote => exact .one (hclose (by decide))
  | list ordered =>
    cases ordered with
    | true => exact .one (hclose (by decide))
    | false => exact .one (hclose (by decide))
  | item => exact .one (hclose (by decide))
  | footnote => exact .nil
  | metadata => exact .nil
  | definitionList => exact .one (hclose (by decide))
  | definitionTitle => exact .one (hclose (by decide))
  | definition => exact .one (hclose (by decide))
  | table => exact .cons (hclose (by decide)) (.one (hclose (by decide)))
  | tableHead =>
    exact .cons (hclose (by decide)) (.cons (hclose (by decide)) (.one (openTag_uses hA hw (by decide))))
  | tableRow => exact .one (hclose (by decide))
  | tableCell => exact .one (hclose (Html.mem_tagNames_of_plain (cellName_mem w.table)))
  | emphasis => exact .one (hclose (by decide))
  | strong => exact .one (hclose (by decide))
  | strikethrough => exact .one (hclose (by decide))
  | superscript => exact .one (hclose (by decide))
  | subscript => exact .one (hclose (by decide))
  | link => exact .one (hclose (by decide))
  | image => exact .one (image_uses hA hw)

omit hw in
theorem taskMarker_uses (checked : Bool) : (Writer.taskMarker checked).Uses plainNames A := by
  have hword : ∀ {name : Text}, name.all Char.isAlphanum = true → (Attribute.mk name none).Over A :=
    fun hn => ⟨hn, fun v hv => absurd hv (by simp)⟩
  refine ⟨by decide, ?_⟩
  intro a ha
  rcases List.mem_append.mp ha with ha | ha
  · rcases List.mem_cons.mp ha with rfl | ha
    · exact attribute_over hA (by decide) (by decide)
    · rw [List.mem_singleton] at ha
      subst ha
      exact hword (by decide)
  · cases checked with
    | true =>
      rw [if_pos rfl, List.mem_singleton] at ha
      subst ha
      exact hword (by decide)
    | false => exact absurd ha List.not_mem_nil

/-- The events that open elements of their own: headings and code. -/
def opensOwn : Event → Bool
  | .start (.heading _) => true
  | .stop .code => true
  | .code _ => true
  | _ => false

theorem step_uses_plain {e : Event} (he : opensOwn e = false)
    (hs : ∀ raw ∈ w.commentsAt e, CommentUses A app raw) : AllUse plainNames A (w.step e).2 := by
  cases e with
  | start tag =>
    apply start_uses hA hw
    rintro level rfl
    exact absurd he (by simp [opensOwn])
  | stop tag =>
    apply stop_uses hA hw _ hs
    rintro rfl
    exact absurd he (by simp [opensOwn])
  | text s => exact (text_uses hA hw hs).1
  | code s => exact absurd he (by simp [opensOwn])
  | html s => exact (html_uses hA hw hs).1
  | inlineHtml s => exact (html_uses hA hw hs).1
  | softBreak =>
    have hline : '<' ∉ ['\n'] := by decide
    rw [Writer.step, Writer.softBreak]
    split
    · exact .nil
    · exact .one hline
  | hardBreak => exact .one (openTag_uses hA hw (by decide))
  | rule => exact .one (openTag_uses hA hw (by decide))
  | taskMarker checked => exact .one (taskMarker_uses hA checked)
  | footnoteReference label => exact .nil
  | inlineMath s => exact .nil
  | displayMath s => exact .nil

theorem step_over {e : Event} (hs : ∀ raw ∈ w.commentsAt e, CommentUses A app raw) : (w.step e).1.Over A app := by
  have hsame : ∀ w' : Writer, w'.interpreter = w.interpreter → w'.codeMarker = w.codeMarker →
      w'.suppressHtml = w.suppressHtml → w'.Over A app := by
    intro w' hi hm hsup
    exact ⟨by rw [hi]; exact hw.interpreter, by rw [hm]; exact hw.codeMarker, by rw [hsup]; exact hw.suppress⟩
  cases e with
  | start tag =>
    cases tag with
    | code kind =>
      cases kind with
      | fenced info => exact hsame _ rfl rfl rfl
      | indented => exact hsame _ rfl rfl rfl
    | _ => exact hsame _ rfl rfl rfl
  | stop tag =>
    cases tag with
    | htmlBlock => exact (stopBlock_uses hA hw hs).2
    | _ => exact hsame _ rfl rfl rfl
  | text s => exact (text_uses hA hw hs).2
  | code s =>
    rw [Writer.step, Writer.inlineCode]
    split
    · exact hsame _ rfl rfl rfl
    · exact hw
  | html s => exact (html_uses hA hw hs).2
  | inlineHtml s => exact (html_uses hA hw hs).2
  | softBreak =>
    rw [Writer.step, Writer.softBreak]
    split
    · exact hsame _ rfl rfl rfl
    · exact hw
  | _ => exact hw

theorem inlineCode_uses (s : Text) : AllUse ["code".toList] A (w.inlineCode s).2 := by
  have hclose : (Markup.closing "code").Uses ["code".toList] A := by
    have hcode : "code".toList ∈ tagNames := by decide
    exact hcode
  unfold Writer.inlineCode
  split
  · exact .nil
  · exact .cons (openTag_uses hA hw List.mem_cons_self) (.cons (escaped_uses s) (.one hclose))

omit hA in
theorem codeElement_uses : AllUse ["code".toList] A w.codeElement := by
  have hclose : (Markup.closing "code").Uses ["code".toList] A := by
    have hcode : "code".toList ∈ tagNames := by decide
    exact hcode
  have hlenient : ∀ s, (Markup.verbatim (escapeLenient s)).Uses ["code".toList] A :=
    lt_notMem_escapeLenient
  have hline : '<' ∉ ['\n'] := by decide
  have hclass : ∀ a ∈ [Attribute.of "class" w.codeMarker], a.Over A := by
    intro a ha
    rw [List.mem_singleton] at ha
    subst ha
    exact .of (by decide) hw.codeMarker
  have hopen : (Markup.opening "code" [.of "class" w.codeMarker]).Uses ["code".toList] A :=
    ⟨List.mem_cons_self, hclass⟩
  exact .cons hopen (.cons (hlenient _) (.cons hline (.cons (hlenient _) (.one hclose))))

theorem heading_uses (level : Markdown.HeadingLevel) :
    AllUse headingNames A (w.start (.heading level)).2 := by
  cases level with
  | h1 => exact .one (openTag_uses hA hw (by decide))
  | h2 => exact .one (openTag_uses hA hw (by decide))
  | h3 => exact .one (openTag_uses hA hw (by decide))
  | h4 => exact .one (openTag_uses hA hw (by decide))
  | h5 => exact .one (openTag_uses hA hw (by decide))
  | h6 => exact .one (openTag_uses hA hw (by decide))

/-- Every event keeps to the names of all tags. -/
theorem step_uses {e : Event} (hs : ∀ raw ∈ w.commentsAt e, CommentUses A app raw) :
    AllUse tagNames A (w.step e).2 := by
  have hcode : ["code".toList] ⊆ tagNames := by decide
  cases he : opensOwn e with
  | false => exact (step_uses_plain hA hw he hs).mono fun _ => mem_tagNames_of_plain
  | true =>
    unfold opensOwn at he
    split at he
    · exact (heading_uses hA hw _).mono (List.subset_append_left _ _)
    · exact (codeElement_uses hw).mono hcode
    · exact (inlineCode_uses hA hw _).mono hcode
    · exact absurd he Bool.false_ne_true

/-- What a run writes keeps to the vocabulary, by induction over the events. -/
theorem run_uses {es : List Event} (hs : ∀ raw ∈ w.comments es, CommentUses A app raw) :
    AllUse tagNames A (w.run es).2 := by
  induction es generalizing w with
  | nil => exact .nil
  | cons e es ih =>
    rw [Writer.comments, List.forall_mem_append] at hs
    exact (step_uses hA hw hs.1).append (ih (step_over hA hw hs.1) hs.2)

end
end Markweave.Html
