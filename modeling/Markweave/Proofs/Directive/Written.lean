import Markweave.Directive.Interpreter
import Markweave.Proofs.Html.Vocabulary

namespace Markweave.Directive

open Text (Over)
open Html (AllUse Attribute Markup plainNames tagNames)

/-- The classes of an interpreter keep to the class of characters. Its accessor is fixed: only some
directives write it. -/
structure Interpreter.Over (A : Char → Prop) (app : Text) (i : Interpreter) : Prop where
  styles : i.styles.Over A
  stylePrefix : Text.Over A i.stylePrefix
  app : i.app = app

/-- What the directive of a comment brings in keeps to the class of characters. -/
def CommentOver (A : Char → Prop) (app raw : Text) : Prop :=
  ∀ d, recognize? raw = some d → Over A d.param ∧ Over A app

/-- What the directive of a comment writes keeps to the vocabulary, and so do the styles after it. -/
def CommentUses (A : Char → Prop) (app raw : Text) : Prop :=
  ∀ i : Interpreter, i.Over A app →
    AllUse plainNames A (i.interpret raw).1.html ∧ (i.interpret raw).2.Over A app

theorem mem_words_splitOn {sep : Char} {s segment : Text} (h : segment ∈ Text.splitOn sep s)
    {A : Char → Prop} (hs : Over A s) : ∀ word ∈ words segment, Over A word := by
  intro word hword c hc
  exact hs c (Text.mem_of_mem_splitOn h (mem_of_mem_words hword hc))

theorem over_parse_filter {A : Char → Prop} {s : Text} (hs : Over A s) :
    (∀ t ∈ (StyleFilter.parse s).tags, Over A t) ∧ ∀ t ∈ (StyleFilter.parse s).styles, Over A t := by
  have hnone : ∀ t ∈ ([] : List Text), Over A t := fun t ht => absurd ht List.not_mem_nil
  unfold StyleFilter.parse
  split
  · exact ⟨hnone, hnone⟩
  · next tags he =>
    exact ⟨mem_words_splitOn (by rw [he]; exact List.mem_cons_self) hs, hnone⟩
  · next tags styles more he =>
    refine ⟨mem_words_splitOn (by rw [he]; exact List.mem_cons_self) hs, ?_⟩
    exact mem_words_splitOn (by rw [he]; exact List.mem_cons_of_mem _ List.mem_cons_self) hs

section

variable {A : Char → Prop} (hA : ∀ c, c ≠ '<' → A c)
include hA

omit hA in
theorem over_parse_segments {s : Text} (hsegment : ∀ t ∈ Text.splitOn ',' s, Over A t)
    (hdefault : Over A TogglerArguments.defaultWidget) :
    Over A (TogglerArguments.parse s).target ∧ Over A (TogglerArguments.parse s).widget := by
  unfold TogglerArguments.parse
  split
  · exact ⟨fun c hc => absurd hc List.not_mem_nil, hdefault⟩
  · next target he =>
    exact ⟨hsegment target (by rw [he]; exact List.mem_cons_self), hdefault⟩
  · next target widget more he =>
    refine ⟨hsegment target (by rw [he]; exact List.mem_cons_self), ?_⟩
    dsimp only
    split
    · exact hdefault
    · intro c hc
      have hw := hsegment widget (by rw [he]; exact List.mem_cons_of_mem _ List.mem_cons_self)
      exact hw c (Text.mem_of_mem_trimWhile hc)

theorem over_parse_toggler {s : Text} (hs : Over A s) :
    Over A (TogglerArguments.parse s).target ∧ Over A (TogglerArguments.parse s).widget :=
  over_parse_segments (fun _ ht c hc => hs c (Text.mem_of_mem_splitOn ht hc)) (.of_notMem hA (by decide))

omit hA in
theorem openDiv_uses {classes : Text} (hc : Over A classes) {more : List Attribute}
    (hm : ∀ a ∈ more, a.Over A) : (Interpreter.openDiv classes more).Uses plainNames A := by
  have hclass : (Attribute.of "class" classes).Over A := .of (by decide) hc
  exact ⟨by decide, List.forall_mem_cons.mpr ⟨hclass, hm⟩⟩

omit hA in
theorem closeDiv_uses : Interpreter.closeDiv.Uses plainNames A := by
  have hdiv : "div".toList ∈ tagNames := by decide
  exact hdiv

omit hA in
theorem script_uses {source : Text} (hs : Over A source) :
    AllUse plainNames A (Interpreter.script source) := by
  have hname : "script".toList ∈ plainNames := by decide
  have hclose : "script".toList ∈ tagNames := by decide
  exact .cons ⟨hname, fun a ha => absurd ha List.not_mem_nil⟩ (.raw hs hclose .nil)

omit hA in
theorem id_over {id : Text} (h : Over A id) : ∀ a ∈ [Attribute.of "id" id], a.Over A := by
  intro a ha
  rw [List.mem_singleton] at ha
  subst ha
  exact .of (by decide) h

omit hA in
theorem over_classList {i : Interpreter} (hi : i.styles.Over A) (hblank : A ' ') {tag extra : Text}
    (he : Over A extra) : Over A (i.classList tag extra) := by
  have hclasses := hi.classes hblank tag
  have hgap : Over A " " := by
    intro c hc
    rw [List.mem_singleton.mp hc]
    exact hblank
  unfold Interpreter.classList
  split
  · exact hclasses
  · split
    · exact he
    · exact (hclasses.append hgap).append he

variable {app : Text} {i : Interpreter} (hi : i.Over A app)
include hi

theorem openBox_uses (level : BoxLevel) {label : Text} (hl : Over A label) :
    AllUse plainNames A (i.openBox level label) := by
  have hnone : ∀ a ∈ ([] : List Attribute), a.Over A := fun a ha => absurd ha List.not_mem_nil
  have hplain : ∀ tag, (Interpreter.openDiv (i.styles.classes tag) []).Uses plainNames A :=
    fun tag => openDiv_uses (hi.styles.classes (hA ' ' (by decide)) tag) hnone
  have hdiv : "div".toList ∈ tagNames := by decide
  cases level with
  | plain => exact .one (openDiv_uses (over_classList hi.styles (hA ' ' (by decide)) hl) hnone)
  | info => exact .cons (hplain _) (.cons (hplain _) (.raw hl hdiv (.one (hplain _))))
  | warn => exact .cons (hplain _) (.cons (hplain _) (.raw hl hdiv (.one (hplain _))))
  | alert => exact .cons (hplain _) (.cons (hplain _) (.raw hl hdiv (.one (hplain _))))

omit hA hi in
theorem closeBox_uses (level : BoxLevel) : AllUse plainNames A (Interpreter.closeBox level) := by
  cases level with
  | plain => exact .one closeDiv_uses
  | info => exact .cons closeDiv_uses (.one closeDiv_uses)
  | warn => exact .cons closeDiv_uses (.one closeDiv_uses)
  | alert => exact .cons closeDiv_uses (.one closeDiv_uses)

theorem openContainer_uses {name : Text} (hn : Over A name) :
    AllUse plainNames A (i.openContainer name) := by
  have hid : Over A ("md-container-" ++ name) := .append (.of_notMem hA (by decide)) hn
  exact .one (openDiv_uses (over_classList hi.styles (hA ' ' (by decide)) hid) (id_over hid))

theorem toggler_uses (happ : Over A i.app) {param : Text} (hp : Over A param) :
    AllUse plainNames A (i.toggler param).html := by
  obtain ⟨htarget, hwidget⟩ := over_parse_toggler hA hp
  have hid : Over A (TogglerArguments.parse param).compactTarget :=
    fun c hc => htarget c (List.mem_filter.mp hc).1
  have hlit : ∀ {t : Text}, '<' ∉ t → Over A t := .of_notMem hA
  have hparent : Over A ("md-togglerparent-" ++ (TogglerArguments.parse param).compactTarget) :=
    (hlit (by decide)).append hid
  unfold Interpreter.toggler
  dsimp only
  split
  · exact .nil
  · apply AllUse.cons (openDiv_uses (over_classList hi.styles (hA ' ' (by decide)) hparent) (id_over hparent))
    apply AllUse.cons closeDiv_uses
    apply script_uses
    refine .append (.append (.append (.append (.append (.append (.append happ ?_) hparent) ?_) hid) ?_)
      hwidget) ?_
    all_goals exact hlit (by decide)

omit hi in
theorem togglerSnippets_uses (happ : Over A i.app) {param : Text} (hp : Over A param) (side : TogglerSide) :
    ∀ snippet ∈ i.togglerSnippets param side, AllUse plainNames A snippet := by
  obtain ⟨htarget, hwidget⟩ := over_parse_toggler hA hp
  obtain ⟨htags, hstyles⟩ := over_parse_filter htarget
  have hlit : ∀ {t : Text}, '<' ∉ t → Over A t := .of_notMem hA
  intro snippet hsnippet
  obtain ⟨⟨tag, style⟩, hpair, rfl⟩ := List.mem_map.mp hsnippet
  obtain ⟨t, ht, hst⟩ := List.mem_flatMap.mp hpair
  obtain ⟨s, hs, he⟩ := List.mem_map.mp hst
  obtain ⟨rfl, rfl⟩ := Prod.mk.inj he
  apply script_uses
  refine .append (.append (.append (.append (.append (.append (.append (.append (.append happ ?_)
    (htags t ht)) ?_) (hstyles s hs)) ?_) hwidget) ?_) ?_) ?_
  · exact hlit (by decide)
  · exact hlit (by decide)
  · exact hlit (by decide)
  · exact hlit (by decide)
  · cases side with
    | before => exact hlit (by decide)
    | after => exact hlit (by decide)
  · exact hlit (by decide)

omit hi in
theorem togglerAppend_uses (happ : Over A i.app) {param : Text} (hp : Over A param) (side : TogglerSide) :
    AllUse plainNames A (i.togglerAppend param side).html := by
  have hall := togglerSnippets_uses hA happ hp side
  rw [Interpreter.togglerAppend_eq]
  split
  · exact .nil
  · next last hlast =>
    split
    · exact hall last (List.mem_of_getLast? hlast)
    · exact .flatten hall

theorem toc_uses (happ : Over A i.app) : AllUse plainNames A i.toc := by
  have hlit : ∀ {t : Text}, '<' ∉ t → Over A t := .of_notMem hA
  have hnumber : Over A (UInt64.text i.nextToc) := hlit (UInt64.notMem_text (by decide) i.nextToc)
  have hbase : Over A (i.stylePrefix ++ "md-toc-container") := hi.stylePrefix.append (hlit (by decide))
  have hid := (hbase.append (hlit (t := "-") (by decide))).append hnumber
  have helement := ((happ.append (hlit (t := ".$(\"div.") (by decide))).append hid).append
    (hlit (t := "\")") (by decide))
  apply AllUse.cons (openDiv_uses ((hbase.append (hlit (by decide))).append hid) (id_over hid))
  apply AllUse.cons closeDiv_uses
  apply script_uses
  refine .append (.append (.append (.append (.append happ ?_) helement) ?_) helement) ?_
  all_goals exact hlit (by decide)

omit hA in
theorem half_uses (hblank : A ' ') {name : Text} (hn : name ∈ plainNames) (tag : Text) {text : Text}
    (ht : Over A text) : AllUse plainNames A (i.half name tag text) := by
  have hopen : (Markup.opening name (i.styles.classAttribute tag)).Uses plainNames A :=
    ⟨hn, hi.styles.classAttribute hblank tag⟩
  exact .cons hopen (.raw ht (Html.mem_tagNames_of_plain hn) .nil)

omit hA in
theorem over_changeStyles {param : Text} (hp : Over A param)
    {change : StyleRegistry → List Text → List Text → StyleRegistry}
    (hc : ∀ tags styles, (∀ s ∈ styles, Over A s) → (change i.styles tags styles).Over A) :
    (i.changeStyles change param).2.Over A app := by
  unfold Interpreter.changeStyles
  split
  · exact hi
  · exact ⟨hc _ _ (over_parse_filter hp).2, hi.stylePrefix, hi.app⟩

omit hA in
/-- The interpreter keeps to the class of characters when the parameter does. -/
theorem render_over (d : Directive) (hd : Over A d.param) : (i.render d).2.Over A app := by
  obtain ⟨kind, param⟩ := d
  cases kind with
  | styleSet => exact over_changeStyles hi hd fun tags _ hs => hi.styles.set tags hs
  | styleReset => exact over_changeStyles hi hd fun tags styles _ => hi.styles.reset tags styles
  | toc => exact ⟨hi.styles, hi.stylePrefix, hi.app⟩
  | _ => exact hi

omit hA in
theorem interpret_over {raw : Text} (hraw : ∀ d, recognize? raw = some d → Over A d.param) :
    (i.interpret raw).2.Over A app := by
  unfold Interpreter.interpret
  split
  · next d hd => exact render_over hi d (hraw d hd)
  · exact hi

omit hA hi in
theorem changeStyles_uses (change : StyleRegistry → List Text → List Text → StyleRegistry) (param : Text) :
    AllUse plainNames A (i.changeStyles change param).1.html := by
  unfold Interpreter.changeStyles
  split
  · exact .nil
  · exact .nil

/-- What carrying out a directive writes. -/
theorem render_uses (d : Directive) (hd : Over A d.param) (happ : Over A app) :
    AllUse plainNames A (i.render d).1.html := by
  rw [← hi.app] at happ
  obtain ⟨kind, param⟩ := d
  cases kind with
  | boxOpen level => exact openBox_uses hA hi level hd
  | boxClose level => exact closeBox_uses level
  | containerOpen => exact openContainer_uses hA hi hd
  | containerClose => exact .one closeDiv_uses
  | styleSet => exact changeStyles_uses _ param
  | styleReset => exact changeStyles_uses _ param
  | toggler => exact toggler_uses hA hi happ hd
  | togglerAppend side => exact togglerAppend_uses hA happ hd side
  | toc => exact toc_uses hA hi happ
  | splitterLeft => exact half_uses hi (hA ' ' (by decide)) (by decide) _ hd
  | splitterRight => exact half_uses hi (hA ' ' (by decide)) (by decide) _ hd

omit hi in
/-- A comment over the class of characters, which then has all but `<`: scripts have quotes. -/
theorem CommentOver.uses {raw : Text} (hraw : CommentOver A app raw) : CommentUses A app raw := by
  intro i hi
  refine ⟨?_, interpret_over hi fun d hd => (hraw d hd).1⟩
  unfold Interpreter.interpret
  split
  · next d hd =>
    obtain ⟨hparam, happ⟩ := hraw d hd
    exact render_uses hA hi d hparam happ
  · exact .nil

omit hA in
theorem splitter_uses (hblank : A ' ') {left right : Text} (hl : Over A left) (hr : Over A right) :
    AllUse plainNames A (i.splitter left right) :=
  (half_uses hi hblank (by decide) _ hl).append (half_uses hi hblank (by decide) _ hr)

end
end Markweave.Directive
