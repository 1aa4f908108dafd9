import Markweave.Proofs.Html.Nesting

namespace Markweave

namespace Markdown

/-- The elements of prose hold their text in themselves: no code blocks, no images and no raw HTML. -/
def Tag.isProse : Tag → Bool
  | code _ => false
  | htmlBlock => false
  | image _ _ => false
  | _ => true

/-- Stops count with any start. -/
def Event.isProse : Event → Bool
  | start tag => tag.isProse
  | html _ => false
  | inlineHtml _ => false
  | inlineMath _ => false
  | displayMath _ => false
  | stop .code => false
  | stop .htmlBlock => false
  | stop .image => false
  | _ => true

/-- What a reader sees of an event: text, code and line ends. -/
def Event.shown : Event → Text
  | text s => s
  | code s => s
  | softBreak => "\n"
  | _ => []

end Markdown

namespace Html

open Markdown (Event Tag StopTag)

/-- Text without the tags, each from a `<` to the next `>`; perhaps one is open already. -/
def withoutTagsFrom : Bool → Text → Text
  | _, [] => []
  | true, c :: s => withoutTagsFrom (c != '>') s
  | false, c :: s => if c = '<' then withoutTagsFrom true s else c :: withoutTagsFrom false s

def withoutTags (html : Text) : Text := withoutTagsFrom false html

theorem withoutTags_append {a : Text} (ha : '<' ∉ a) (s : Text) : withoutTags (a ++ s) = a ++ withoutTags s := by
  induction a with
  | nil => rfl
  | cons c a ih =>
    simp only [List.mem_cons, not_or] at ha
    rw [List.cons_append, withoutTags, withoutTagsFrom, if_neg (Ne.symm ha.1)]
    exact congrArg (c :: ·) (ih ha.2)

theorem withoutTags_tag {inside : Text} (hgt : '>' ∉ inside) (s : Text) :
    withoutTags ('<' :: (inside ++ '>' :: s)) = withoutTags s := by
  rw [withoutTags, withoutTagsFrom, if_pos rfl]
  induction inside with
  | nil => rfl
  | cons c inside ih =>
    simp only [List.mem_cons, not_or] at hgt
    have hc : (c != '>') = true := by simpa using Ne.symm hgt.1
    rw [List.cons_append, withoutTagsFrom, hc, ih hgt.2]

/-- The text of a piece of markup that stands outside tags. -/
def Markup.shown : Markup → Text
  | verbatim t => t
  | _ => []

theorem withoutTags_markup {m : Markup} (hm : m.Uses tagNames (isValueChar · = true)) (s : Text) :
    withoutTags (m.write ++ s) = m.shown ++ withoutTags s := by
  have hnames : ∀ n ∈ tagNames, '>' ∉ n := by decide
  have hattributes : ∀ {as : List Attribute}, (∀ a ∈ as, a.Over (isValueChar · = true)) →
      '>' ∉ writeAttributes as := by
    intro as has
    apply notMem_writeAttributes (by decide) (by decide)
    exact fun a ha => ⟨(has a ha).1, fun v hv c hc => (ne_of_isValueChar ((has a ha).2 v hv c hc)).2.1⟩
  cases m with
  | verbatim t => exact withoutTags_append hm s
  | opening n as =>
    have hinside := List.not_mem_append (hnames n hm.1) (hattributes hm.2)
    rw [write_opening_append, ← List.append_assoc]
    exact withoutTags_tag hinside s
  | standalone n as =>
    have hinside := List.not_mem_append (List.not_mem_append (hnames n hm.1) (hattributes hm.2))
      (by decide : '>' ∉ " /".toList)
    have hend : ' ' :: ("/>" ++ s) = " /".toList ++ '>' :: s := rfl
    rw [write_standalone_append, hend, ← List.append_assoc, ← List.append_assoc]
    exact withoutTags_tag hinside s
  | closing n =>
    rw [write_closing_append, ← List.cons_append]
    exact withoutTags_tag (by simpa using hnames n hm) s

theorem withoutTags_writeAll {ms : List Markup} (h : ∀ m ∈ ms, m.Uses tagNames (isValueChar · = true)) :
    withoutTags (writeAll ms) = ms.flatMap Markup.shown := by
  induction ms with
  | nil => rfl
  | cons m ms ih =>
    rw [List.forall_mem_cons] at h
    rw [writeAll, List.flatMap_cons, withoutTags_markup h.1, List.flatMap_cons]
    exact congrArg (m.shown ++ ·) (ih h.2)

/-- Text without the openings of comments and line breaks and without a splitter. -/
structure Unmarked (s : Text) : Prop where
  comment : Text.contains "<!---" s = false
  lineBreak : Text.contains "<br" s = false
  splitter : Text.contains splitterMark s = false

theorem dropStart?_eq_none_of_suffix {needle s t : Text} (h : Text.contains needle s = false) (ht : t <:+ s) :
    Text.dropStart? needle t = none := by
  cases hd : Text.dropStart? needle t with
  | none => rfl
  | some r =>
    have hinfix : needle <:+: s := by
      rw [Text.eq_append_of_dropStart? hd] at ht
      exact (List.prefix_append needle r).isInfix.trans ht.isInfix
    rw [← Text.contains_iff_infix, h] at hinfix
    cases hinfix

theorem Unmarked.inlinePieces {c : Char} {s : Text} (h : Unmarked (c :: s)) :
    inlinePieces (c :: s) = [.plain (c :: s)] := by
  apply InlineToken.pattern.split_of_none
  intro d v hv
  change InlineToken.read? (d :: v) = none
  rw [InlineToken.read?, InlineToken.readDirective?, dropStart?_eq_none_of_suffix h.comment hv,
    dropStart?_eq_none_of_suffix h.lineBreak hv]
  rfl

/-- Unmarked text is written as text and changes nothing. -/
theorem Unmarked.pieces {s : Text} (h : Unmarked s) (w : Writer) :
    Writer.pieces Writer.plainText w (Html.inlinePieces s) = (w, if s = [] then [] else [.verbatim (escape s)]) := by
  cases s with
  | nil =>
    rw [Html.inlinePieces, Pattern.split]
    rfl
  | cons c s =>
    have hcut : Text.cut? splitterMark (c :: s) = none :=
      Option.isNone_iff_eq_none.mp (Option.isSome_eq_false_iff.mp h.splitter)
    rw [h.inlinePieces, Writer.pieces, Writer.pieces, Writer.plainText, hcut]
    rfl

section Run

variable {w : Writer}

theorem Unmarked.text {s : Text} (h : Unmarked s) (hcode : w.code.active = false) (himage : w.image.active = false) :
    w.text s = (w, if s = [] then [] else [.verbatim (escape s)]) := by
  rw [Writer.text, hcode, himage, if_neg Bool.false_ne_true, if_neg Bool.false_ne_true, h.pieces]

/-- Around its tags an event of prose writes what is to be seen of it. -/
theorem step_shown (hcode : w.code.active = false) (himage : w.image.active = false) {e : Event}
    (he : e.isProse = true) (htext : ∀ s, e = .text s → Unmarked s) :
    (w.step e).2.flatMap Markup.shown = escape e.shown ∧
      (w.step e).1.code.active = false ∧ (w.step e).1.image.active = false := by
  have hlist : ∀ first, (w.startList first).shown = [] := by
    intro first
    unfold Writer.startList
    split <;> rfl
  cases e with
  | start tag =>
    cases tag with
    | code kind => cases he
    | htmlBlock => cases he
    | image url title => cases he
    | list first => exact ⟨(List.append_nil _).trans (hlist first), hcode, himage⟩
    | _ => exact ⟨rfl, hcode, himage⟩
  | stop tag =>
    cases tag with
    | code => cases he
    | htmlBlock => cases he
    | image => cases he
    | _ => exact ⟨rfl, hcode, himage⟩
  | text s =>
    rw [Writer.step, (htext s rfl).text hcode himage]
    refine ⟨?_, hcode, himage⟩
    cases s with
    | nil => rfl
    | cons c s => exact List.append_nil _
  | code s =>
    rw [Writer.step, Writer.inlineCode, himage, if_neg Bool.false_ne_true]
    exact ⟨(List.append_nil _), hcode, himage⟩
  | softBreak =>
    rw [Writer.step, Writer.softBreak, hcode, if_neg Bool.false_ne_true]
    exact ⟨rfl, hcode, himage⟩
  | html s => cases he
  | inlineHtml s => cases he
  | inlineMath s => cases he
  | displayMath s => cases he
  | _ => exact ⟨rfl, hcode, himage⟩

theorem escape_append (s t : Text) : escape (s ++ t) = escape s ++ escape t := List.flatMap_append

theorem run_shown (hcode : w.code.active = false) (himage : w.image.active = false) {es : List Event}
    (hprose : ∀ e ∈ es, e.isProse = true) (htexts : ∀ s, Event.text s ∈ es → Unmarked s) :
    (w.run es).2.flatMap Markup.shown = escape (es.flatMap Event.shown) := by
  induction es generalizing w with
  | nil => rfl
  | cons e es ih =>
    rw [List.forall_mem_cons] at hprose
    obtain ⟨hshown, hcode', himage'⟩ :=
      step_shown hcode himage hprose.1 fun s hs => htexts s (hs ▸ List.mem_cons_self)
    rw [Writer.run_cons, List.flatMap_append, hshown, List.flatMap_cons, escape_append]
    exact congrArg (escape e.shown ++ ·) (ih hcode' himage' hprose.2 fun s hs => htexts s (List.mem_cons_of_mem e hs))

/-- The writer with raw HTML suppressed. -/
def Writer.suppressing (w : Writer) : Writer := { w with suppressHtml := true }

/-- Prose has no raw HTML to suppress. -/
theorem step_suppressing {e : Event} (he : e.isProse = true) (htext : ∀ s, e = .text s → Unmarked s) :
    w.suppressing.step e = ((w.step e).1.suppressing, (w.step e).2) := by
  cases e with
  | start tag =>
    cases tag with
    | code kind => cases he
    | _ => rfl
  | stop tag =>
    cases tag with
    | htmlBlock => cases he
    | _ => rfl
  | text s =>
    rw [Writer.step, Writer.step, Writer.text, Writer.text, (htext s rfl).pieces, (htext s rfl).pieces]
    cases hcode : w.code.active with
    | true => simp [Writer.suppressing, hcode]
    | false =>
      cases himage : w.image.active with
      | true => simp [Writer.suppressing, hcode, himage]
      | false => simp [Writer.suppressing, hcode, himage]
  | code s =>
    rw [Writer.step, Writer.step, Writer.inlineCode, Writer.inlineCode]
    cases himage : w.image.active with
    | true => simp [Writer.suppressing, himage]
    | false => simp [Writer.suppressing, himage, Writer.openTag, Writer.classAttribute]
  | softBreak =>
    rw [Writer.step, Writer.step, Writer.softBreak, Writer.softBreak]
    cases hcode : w.code.active with
    | true => simp [Writer.suppressing, hcode]
    | false => simp [Writer.suppressing, hcode]
  | html s => cases he
  | inlineHtml s => cases he
  | _ => rfl

theorem run_suppressing {es : List Event} (hprose : ∀ e ∈ es, e.isProse = true)
    (htexts : ∀ s, Event.text s ∈ es → Unmarked s) : (w.suppressing.run es).2 = (w.run es).2 := by
  induction es generalizing w with
  | nil => rfl
  | cons e es ih =>
    rw [List.forall_mem_cons] at hprose
    rw [Writer.run_cons, Writer.run_cons,
      step_suppressing hprose.1 fun s hs => htexts s (hs ▸ List.mem_cons_self)]
    exact congrArg ((w.step e).2 ++ ·) (ih hprose.2 fun s hs => htexts s (List.mem_cons_of_mem e hs))

end Run

theorem rawHtml_prose {es : List Event} (hprose : ∀ e ∈ es, e.isProse = true) : rawHtml es = [] := by
  apply List.flatMap_eq_nil_iff.mpr
  intro e he
  cases e with
  | html s => cases hprose _ he
  | inlineHtml s => cases hprose _ he
  | _ => rfl

/-- Without its tags, and with its references decoded once, written prose is the texts and codes of its events in
their order, with a line end for each soft break. -/
theorem unescape_withoutTags_write {c : RenderConfig} (hstyle : c.stylePrefix.all Settings.isPrefixChar = true)
    {events : List Event} (hprose : ∀ e ∈ events, e.isProse = true)
    (htexts : ∀ s, Event.text s ∈ events → Unmarked s) :
    unescape (withoutTags (writeAll (write c events))) = events.flatMap Event.shown := by
  have hraw : Text.contains "<!---" (rawHtml events) = false := by
    rw [rawHtml_prose hprose]
    rfl
  have hcomments := comments_ofConfig_eq_nil { c with extensions.suppressHtml := true }
    (fun s hs => (htexts s hs).comment) hraw
  have huses := uses_write (c := { c with extensions.suppressHtml := true }) rfl hstyle hcomments
  have hsame : write { c with extensions.suppressHtml := true } events = write c events :=
    run_suppressing (w := Writer.ofConfig c) hprose htexts
  rw [hsame] at huses
  rw [withoutTags_writeAll huses, write, run_shown rfl rfl hprose htexts, unescape_escape]

/-- Texts that look like markup, in a link with a title that looks like its end. -/
def bracketsInLink : List Event :=
  Event.within .paragraph (Event.within (.link "a" "\"><i>") [.text "<b>", .softBreak, .code "&amp; > x"] ++ [.rule])

theorem unescape_withoutTags_write_brackets_in_link :
    unescape (withoutTags (writeAll (write .default bracketsInLink))) = "<b>\n&amp; > x" := by
  have hprose : ∀ e ∈ bracketsInLink, e.isProse = true := List.all_eq_true.mp (by decide)
  have htexts : ∀ s, Event.text s ∈ bracketsInLink → Unmarked s := by
    intro s hs
    have hs : s = "<b>" := by simpa [bracketsInLink, Event.within, Tag.stop] using hs
    subst hs
    exact ⟨by decide, by decide, by decide⟩
  exact unescape_withoutTags_write (by decide) hprose htexts

end Html
end Markweave
