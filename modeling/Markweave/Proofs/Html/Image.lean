import Markweave.Proofs.Html.Nesting

namespace Markweave.Html

open Markdown (Event Tag StopTag WellNested)
open Markdown.Event (tableOf within)

/-- What may stand between the start and the stop of an image; a text opens no comment. -/
def mayDescribe : Event → Bool
  | .text s => !Text.contains "<!---" s
  | .code _ => true
  | .softBreak => true
  | .start .emphasis => true
  | .start .strong => true
  | .start (.link _ _) => true
  | .start (.image _ _) => true
  | .stop .emphasis => true
  | .stop .strong => true
  | .stop .link => true
  | .stop .image => true
  | _ => false

/-- What becomes part of the description. -/
def isCaptured : Event → Bool
  | .text _ => true
  | .code _ => true
  | _ => false

def isImage : Event → Bool
  | .start (.image _ _) => true
  | .stop .image => true
  | _ => false

/-- The texts of a description; a break counts as a blank. -/
def altText (blank : Text) (es : List Event) : Text :=
  es.flatMap fun
    | .text s => s
    | .code s => s
    | .softBreak => blank
    | _ => []

def Writer.imageMarkup (w : Writer) (url title alt : Text) : Markup :=
  .standalone "img" <| w.classAttribute "img" ++
    .of "src" (escape url) :: .of "alt" (escape alt) :: titleAttribute title

def Writer.setImage (w : Writer) (i : ImageState) : Writer := { w with image := i }

/-- The image that the writer knows of, after events in which images stop that start. -/
def ImageState.after (i : ImageState) (es : List Event) : ImageState :=
  if es.any isImage then .idle
  else if i.active then { i with description := i.description ++ altText [] es }
  else i

theorem altText_append (blank : Text) (es fs : List Event) :
    altText blank (es ++ fs) = altText blank es ++ altText blank fs := List.flatMap_append

theorem altText_within (blank : Text) (tag : Tag) (inside : List Event) :
    altText blank (within tag inside) = altText blank inside := by
  have hwithin := altText_append blank inside [.stop tag.stop]
  rwa [show altText blank [.stop tag.stop] = [] from rfl, List.append_nil] at hwithin

namespace ImageState

theorem after_append (i : ImageState) (es fs : List Event) : i.after (es ++ fs) = (i.after es).after fs := by
  unfold after
  rw [List.any_append, altText_append]
  cases es.any isImage <;> cases fs.any isImage <;> cases hactive : i.active <;> simp [hactive, idle]

theorem after_of_altText {es : List Event} (himage : es.any isImage = false) (halt : altText [] es = [])
    (i : ImageState) : i.after es = i := by
  rw [after, himage, halt, List.append_nil]
  simp

theorem after_image (i : ImageState) (url title : Text) (inside : List Event) :
    i.after (within (.image url title) inside) = .idle := if_pos rfl

theorem after_within {tag : Tag} (htag : isImage (.start tag) = false) (i : ImageState) (inside : List Event) :
    i.after (within tag inside) = i.after inside := by
  have hstop : isImage (.stop tag.stop) = false := by
    cases tag with
    | image url title => cases htag
    | _ => rfl
  have hany : (within tag inside).any isImage = inside.any isImage := by
    simp [within, htag, hstop]
  rw [after, hany, altText_within]
  rfl

end ImageState

namespace Writer

variable {w : Writer} {es : List Event}

theorem step_setImage (hcode : w.code.active = false) {e : Event} (hsingle : e.isSingle = true)
    (he : mayDescribe e = true) : (w.step e).1 = w.setImage (w.image.after [e]) := by
  cases e with
  | text s =>
    have hcomments : commentsIn (inlinePieces s) = [] := by
      refine commentsIn_eq_nil fun hs => ?_
      rw [mayDescribe, Text.contains_iff_infix.mpr hs] at he
      cases he
    rw [step, text, if_neg (by simp [hcode]), ImageState.after]
    split
    · simp [setImage, isImage, altText, *]
    · simp [setImage, isImage, pieces_fst _ w hcomments, *]
  | code s =>
    rw [step, inlineCode, ImageState.after]
    split
    · simp [setImage, isImage, altText, *]
    · simp [setImage, isImage, *]
  | softBreak =>
    rw [step, softBreak, if_neg (by simp [hcode]), ImageState.after_of_altText rfl rfl]
    rfl
  | start tag => cases hsingle
  | stop tag => cases hsingle
  | _ => cases he

/-- The events change nothing but the image that the writer knows of. -/
theorem run_setImage (hnested : WellNested es) (hes : ∀ e ∈ es, mayDescribe e = true) (hcode : w.code.active = false) :
    (w.run es).1 = w.setImage (w.image.after es) := by
  induction hnested generalizing w with
  | nil => rw [ImageState.after_of_altText rfl rfl]; rfl
  | @single e es hsingle _ ih =>
    rw [List.forall_mem_cons] at hes
    have hrest := ih (w := w.setImage (w.image.after [e])) hes.2 hcode
    have hafter : w.image.after (e :: es) = (w.image.after [e]).after es := ImageState.after_append _ [e] es
    rw [run_cons, step_setImage hcode hsingle hes.1, hrest, hafter]
    rfl
  | @element tag inside es _ _ _ ih ihs =>
    rw [List.forall_mem_append] at hes
    have hstart : mayDescribe (.start tag) = true := hes.1 _ List.mem_cons_self
    have hinside : ∀ e ∈ inside, mayDescribe e = true := fun e he =>
      hes.1 e (List.mem_cons_of_mem _ (List.mem_append_left _ he))
    have hwithin : (w.run (within tag inside)).1 = w.setImage (w.image.after (within tag inside)) := by
      rw [run_within]
      cases tag with
      | image url title =>
        have hrun := ih (w := (w.start (.image url title)).1) hinside hcode
        rw [ImageState.after_image, hrun]
        rfl
      | emphasis => rw [ImageState.after_within rfl]; exact ih hinside hcode
      | strong => rw [ImageState.after_within rfl]; exact ih hinside hcode
      | link url title => rw [ImageState.after_within rfl]; exact ih hinside hcode
      | _ => cases hstart
    have hrest := ihs (w := w.setImage (w.image.after (within tag inside))) hes.2 hcode
    rw [run_append, hwithin, hrest, ImageState.after_append]
    rfl
  | table => cases hes _ List.mem_cons_self

/-- What is captured is not written, and the image stays open. -/
theorem step_of_isCaptured {i : ImageState} (hcode : w.code.active = false) (hactive : i.active = true) {e : Event}
    (he : isCaptured e = true) :
    ∃ j : ImageState, j.active = true ∧ (w.setImage i).step e = (w.setImage j, []) := by
  have hcode : (w.setImage i).code.active = false := hcode
  have hactive' : (w.setImage i).image.active = true := hactive
  cases e with
  | text s =>
    refine ⟨{ i with description := i.description ++ s }, hactive, ?_⟩
    rw [step, text, if_neg (by simp [hcode]), if_pos hactive']
    rfl
  | code s =>
    refine ⟨{ i with description := i.description ++ s }, hactive, ?_⟩
    rw [step, inlineCode, if_pos hactive']
    rfl
  | _ => cases he

/-- What is not captured does not depend on the image. -/
theorem step_of_not_isCaptured (i : ImageState) (hcode : w.code.active = false) {e : Event}
    (he : mayDescribe e = true) (hcaptured : isCaptured e = false) (himage : isImage e = false) :
    ∃ ms, (w.setImage i).step e = (w.setImage i, ms) ∧ w.step e = (w, ms) := by
  cases e with
  | text s => cases hcaptured
  | code s => cases hcaptured
  | softBreak =>
    have hcode' : ¬ (w.setImage i).code.active = true := by simp [setImage, hcode]
    refine ⟨[.verbatim ['\n']], ?_, ?_⟩
    · rw [step, softBreak, if_neg hcode']
    · rw [step, softBreak, if_neg (by simp [hcode])]
  | start tag =>
    cases tag with
    | image url title => cases himage
    | emphasis => exact ⟨_, rfl, rfl⟩
    | strong => exact ⟨_, rfl, rfl⟩
    | link url title => exact ⟨_, rfl, rfl⟩
    | _ => cases he
  | stop tag =>
    cases tag with
    | image => cases himage
    | emphasis => exact ⟨_, rfl, rfl⟩
    | strong => exact ⟨_, rfl, rfl⟩
    | link => exact ⟨_, rfl, rfl⟩
    | _ => cases he
  | _ => cases he

/-- What stands in an image is written as without the image, but for what is captured. -/
theorem run_setImage_snd {i : ImageState} (hes : ∀ e ∈ es, mayDescribe e = true) (hnone : es.any isImage = false)
    (hcode : w.code.active = false) (hactive : i.active = true) :
    ((w.setImage i).run es).2 = (w.run (es.filter fun e => !isCaptured e)).2 := by
  induction es generalizing i with
  | nil => rfl
  | cons e es ih =>
    rw [List.forall_mem_cons] at hes
    rw [List.any_cons, Bool.or_eq_false_iff] at hnone
    by_cases hcaptured : isCaptured e = true
    · obtain ⟨j, hj, hstep⟩ := step_of_isCaptured hcode hactive hcaptured
      rw [run_cons, hstep, List.filter_cons_of_neg (by simp [hcaptured]), ih hes.2 hnone.2 hj]
      rfl
    · rw [Bool.not_eq_true] at hcaptured
      obtain ⟨ms, hstep, hplain⟩ := step_of_not_isCaptured i hcode hes.1 hcaptured hnone.1
      rw [run_cons, hstep, List.filter_cons_of_pos (by simp [hcaptured]), run_cons, hplain, ih hes.2 hnone.2 hactive]

/-- Every stop in a description writes a tag. -/
theorem lt_mem_of_stop {tag : StopTag} (hes : ∀ e ∈ es, mayDescribe e = true) (hstop : .stop tag ∈ es) :
    '<' ∈ writeAll (w.run es).2 := by
  obtain ⟨before, behind, rfl⟩ := List.append_of_mem hstop
  have htag := hes _ hstop
  rw [run_append, run_cons]
  simp only [writeAll_append, List.mem_append]
  refine .inr (.inl ?_)
  cases tag with
  | emphasis => exact List.mem_cons_self
  | strong => exact List.mem_cons_self
  | link => exact List.mem_cons_self
  | image => exact List.mem_cons_self
  | _ => cases htag

end Writer

/-- What starts also stops. -/
theorem isSingle_of_wellNested {es : List Event} (h : WellNested es) (hstop : ∀ tag, .stop tag ∉ es) :
    ∀ e ∈ es, e.isSingle = true := by
  induction h with
  | nil => exact List.forall_mem_nil _
  | single he _ ih => exact List.forall_mem_cons.mpr ⟨he, ih fun tag h => hstop tag (List.mem_cons_of_mem _ h)⟩
  | @element tag => exact absurd (by simp [within]) (hstop tag.stop)
  | table => exact absurd (by simp [tableOf, within, Tag.stop]) (hstop .table)

theorem isImage_of_isSingle {e : Event} (h : e.isSingle = true) : isImage e = false := by
  cases e with
  | start tag => cases h
  | stop tag => cases h
  | _ => rfl

theorem isSingle_of_isCaptured {e : Event} (h : isCaptured e = true) : e.isSingle = true := by
  cases e with
  | text s => rfl
  | code s => rfl
  | _ => cases h

theorem eq_softBreak {e : Event} (hsingle : e.isSingle = true) (he : mayDescribe e = true)
    (hcaptured : isCaptured e = false) : e = .softBreak := by
  cases e with
  | softBreak => rfl
  | text s => cases hcaptured
  | code s => cases hcaptured
  | start tag => cases hsingle
  | stop tag => cases hsingle
  | _ => cases he

theorem any_isImage_of_isSingle {es : List Event} (h : ∀ e ∈ es, e.isSingle = true) : es.any isImage = false := by
  rw [List.any_eq_false]
  intro e he
  rw [isImage_of_isSingle (h e he)]
  exact Bool.false_ne_true

/-- Texts and code have no breaks. -/
theorem altText_of_isCaptured {es : List Event} (h : ∀ e ∈ es, isCaptured e = true) (blank : Text) :
    altText blank es = altText [] es := by
  rw [altText, altText, List.flatMap_def, List.flatMap_def]
  refine congrArg List.flatten (List.map_congr_left fun e he => ?_)
  cases e with
  | softBreak => cases h _ he
  | _ => rfl

/-- All images of a writer begin in the same way, and no other tag opens in them. -/
theorem write_imageMarkup (w : Writer) (url title alt : Text) : ∃ rest, '<' ∉ rest ∧
    (w.imageMarkup url title alt).write = "<img" ++ writeAttributes (w.classAttribute "img") ++ rest := by
  have hover : ∀ a ∈ Attribute.of "src" (escape url) :: .of "alt" (escape alt) :: Writer.titleAttribute title,
      a.Over (· ≠ '<') := by
    have hvalue : ∀ c, isValueChar c = true → c ≠ '<' := by
      rintro c hc rfl
      exact absurd hc (by decide)
    simp only [List.forall_mem_cons]
    exact ⟨attribute_over hvalue (by decide) (all_isValueChar_escape url),
      attribute_over hvalue (by decide) (all_isValueChar_escape alt), titleAttribute_over hvalue title⟩
  refine ⟨writeAttributes (.of "src" (escape url) :: .of "alt" (escape alt) :: Writer.titleAttribute title) ++ " />",
    ?_, ?_⟩
  · rw [List.mem_append, not_or]
    exact ⟨lt_notMem_writeAttributes hover, by decide⟩
  · rw [Writer.imageMarkup, Markup.write, writeAttributes, List.flatMap_append]
    simp only [List.append_assoc]
    rfl

theorem count_imageMarkup (w : Writer) (url title alt url' title' alt' : Text) :
    (w.imageMarkup url title alt).write.count '<' = (w.imageMarkup url' title' alt').write.count '<' := by
  obtain ⟨rest, hrest, hwrite⟩ := write_imageMarkup w url title alt
  obtain ⟨rest', hrest', hwrite'⟩ := write_imageMarkup w url' title' alt'
  simp only [hwrite, hwrite', List.count_append, List.count_eq_zero.mpr hrest, List.count_eq_zero.mpr hrest']

/-- What stands in an image is written first, and then the image that the writer knows of. -/
theorem Writer.run_image_snd {w : Writer} {es : List Event} (hnested : WellNested es)
    (hes : ∀ e ∈ es, mayDescribe e = true) (hcode : w.code.active = false) (url title : Text) :
    (w.run (within (.image url title) es)).2 = ((w.setImage ⟨true, url, title, []⟩).run es).2 ++
      [w.imageMarkup (ImageState.after ⟨true, url, title, []⟩ es).source
        (ImageState.after ⟨true, url, title, []⟩ es).title
        (ImageState.after ⟨true, url, title, []⟩ es).description] := by
  have hrun := run_setImage (w := w.setImage ⟨true, url, title, []⟩) hnested hes hcode
  have hstart : w.start (.image url title) = (w.setImage ⟨true, url, title, []⟩, []) := rfl
  rw [run_within, hstart, hrun]
  rfl

/-- An image is written as a single element exactly when it holds texts and inline code only, however a break counts.
Breaks and the tags of other elements are written before it, and of an image with another image inside nothing comes
back but the bare element. -/
theorem write_image_iff {w : Writer} {es : List Event} (hnested : WellNested es)
    (hes : ∀ e ∈ es, mayDescribe e = true) (hcode : w.code.active = false) (url title : Text) :
    ((∃ blank ∈ ["\n".toList, " ".toList], writeAll (w.run (within (.image url title) es)).2 =
        (w.imageMarkup url title (altText blank es)).write) ↔ ∀ e ∈ es, isCaptured e = true) ∧
    (es.any isImage = false → writeAll (w.run (within (.image url title) es)).2 =
      writeAll (w.run (es.filter fun e => !isCaptured e)).2 ++
        (w.imageMarkup url title (altText [] es)).write) ∧
    (es.any isImage = true → writeAll (w.run (within (.image url title) es)).2 =
      writeAll ((w.start (.image url title)).1.run es).2 ++ (w.imageMarkup [] [] []).write) := by
  have hrun := Writer.run_image_snd hnested hes hcode url title
  have hsingle : ∀ m : Markup, writeAll [m] = m.write := fun m => List.append_nil _
  have hplain : es.any isImage = false → writeAll (w.run (within (.image url title) es)).2 =
      writeAll (w.run (es.filter fun e => !isCaptured e)).2 ++ (w.imageMarkup url title (altText [] es)).write := by
    intro hnone
    have hafter : ImageState.after ⟨true, url, title, []⟩ es = ⟨true, url, title, altText [] es⟩ := by
      rw [ImageState.after, hnone]
      rfl
    rw [hrun, hafter, Writer.run_setImage_snd hes hnone hcode rfl, writeAll_append, hsingle]
  refine ⟨⟨?_, ?_⟩, hplain, ?_⟩
  · rintro ⟨blank, _, hwrite⟩
    have hno : '<' ∉ writeAll ((w.setImage ⟨true, url, title, []⟩).run es).2 := by
      have hcount := congrArg (List.count '<') hwrite
      rw [hrun, writeAll_append, hsingle, List.count_append,
        count_imageMarkup w url title (altText blank es)] at hcount
      exact List.count_eq_zero.mp (Nat.add_eq_right.mp hcount)
    have hsingles := isSingle_of_wellNested hnested fun tag hstop => hno (Writer.lt_mem_of_stop hes hstop)
    rw [hplain (any_isImage_of_isSingle hsingles)] at hwrite
    -- The first event that is not captured would be a break, and that is no beginning of an image.
    cases hleft : es.filter fun e => !isCaptured e with
    | nil =>
      intro e he
      simpa using List.filter_eq_nil_iff.mp hleft e he
    | cons e left =>
      have hmem : e ∈ es.filter fun e => !isCaptured e := hleft ▸ List.mem_cons_self
      obtain ⟨he, hcaptured⟩ := List.mem_filter.mp hmem
      obtain rfl := eq_softBreak (hsingles e he) (hes e he) (by simpa using hcaptured)
      obtain ⟨rest, _, hbegin⟩ := write_imageMarkup w url title (altText blank es)
      rw [hleft, Writer.run_cons, Writer.step, Writer.softBreak, if_neg (by simp [hcode]), hbegin] at hwrite
      cases hwrite
  · intro hcaptured
    have hsingles : ∀ e ∈ es, e.isSingle = true := fun e he => isSingle_of_isCaptured (hcaptured e he)
    have hfilter : (es.filter fun e => !isCaptured e) = [] :=
      List.filter_eq_nil_iff.mpr fun e he => by simp [hcaptured e he]
    refine ⟨_, List.mem_cons_self, ?_⟩
    rw [hplain (any_isImage_of_isSingle hsingles), hfilter, altText_of_isCaptured hcaptured "\n"]
    rfl
  · intro hany
    rw [hrun, ImageState.after, if_pos hany, writeAll_append, hsingle]
    rfl

/-- Texts and code with characters that are escaped, and a title. -/
theorem write_image_iff_text_and_code :
    (WellNested [.text "a<b", .code "\"c\""] ∧
      (∀ e ∈ [Event.text "a<b", .code "\"c\""], mayDescribe e = true) ∧ (Writer.ofConfig .default).code.active = false) ∧
    ∃ blank ∈ ["\n".toList, " ".toList],
      writeAll ((Writer.ofConfig .default).run (within (.image "u&v" "t") [.text "a<b", .code "\"c\""])).2 =
        ((Writer.ofConfig .default).imageMarkup "u&v" "t" (altText blank [.text "a<b", .code "\"c\""])).write := by
  have hnested : WellNested [.text "a<b", .code "\"c\""] := .single rfl (.single rfl .nil)
  have hes : ∀ e ∈ [Event.text "a<b", .code "\"c\""], mayDescribe e = true := by decide
  exact ⟨⟨hnested, hes, rfl⟩, (write_image_iff hnested hes rfl "u&v" "t").1.mpr (by decide)⟩

/-- The tags of an emphasis in the description of an image stand before the image. -/
theorem not_forall_write_image :
    ¬ ∀ (w : Writer) (es : List Event) (url title : Text), WellNested es → (∀ e ∈ es, mayDescribe e = true) →
      w.code.active = false → ∃ blank ∈ ["\n".toList, " ".toList],
        writeAll (w.run (within (.image url title) es)).2 = (w.imageMarkup url title (altText blank es)).write := by
  intro h
  have hnested : WellNested (.text "a " :: (within .emphasis [.text "b"] ++ [])) :=
    .single rfl (.element rfl (.single rfl .nil) .nil)
  exact absurd (h (.ofConfig .default) _ "u" "" hnested (by decide) rfl) (by decide +kernel)

end Markweave.Html
