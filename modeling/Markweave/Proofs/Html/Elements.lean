import Markweave.Proofs.Html.Calm
import Markweave.Proofs.Html.Comments
import Markweave.Settings.Validity

namespace Markweave.Html

open Diagram (CodeBlock)
open Markdown (Event HeadingLevel)

/-- What receives a number: code with its info string and its text, and headings. -/
inductive Element
  | code (b : CodeBlock)
  | heading (level : HeadingLevel)
deriving Repr, DecidableEq

/-- Code as its author means it, without escapes and with its blank lines. -/
def CodeState.block (k : CodeState) : CodeBlock :=
  ⟨k.info, if k.fenced then Source.restoreBlankLines k.content else k.content⟩

/-- The element that is complete or begins at an event. -/
def elementAt? (k : CodeState) : Event → Option Element
  | .start (.heading level) => some (.heading level)
  | .stop .code => some (.code k.block)
  | _ => none

/-- The elements of a run of events, in their order. -/
def elements : CodeState → List Event → List Element
  | _, [] => []
  | k, e :: es => (elementAt? k e).toList ++ elements (k.after e) es

/-- The text that stands in code. -/
def codeText : CodeState → List Event → Text
  | _, [] => []
  | k, .text s :: es => (if k.active then s else []) ++ codeText (k.after (.text s)) es
  | k, e :: es => codeText (k.after e) es

/-- The events at which a number is due. -/
def drawsId : Event → Bool
  | .start (.heading _) => true
  | .stop .code => true
  | _ => false

theorem isSome_elementAt? (k : CodeState) (e : Event) : (elementAt? k e).isSome = drawsId e := by
  cases e with
  | start tag => cases tag <;> rfl
  | stop tag => cases tag <;> rfl
  | _ => rfl

theorem length_elements (k : CodeState) (es : List Event) : (elements k es).length = es.countP drawsId := by
  induction es generalizing k with
  | nil => rfl
  | cons e es ih =>
    rw [elements, List.length_append, ih, List.countP_cons, ← isSome_elementAt? k e]
    cases elementAt? k e with
    | none => simp
    | some element => simp [Nat.add_comm]

def headingName (level : HeadingLevel) : Text := "h" ++ Text.ofNat level.number

namespace Element

/-- Both strings escaped, as they stand in written HTML. -/
def escaped (b : CodeBlock) : CodeBlock := ⟨escapeLenient b.info, escapeLenient b.body⟩

/-- An element as the writer leaves it. -/
def write (c : RenderConfig) : Element → Text
  | code b => (escaped b).write c.codeMarker
  | heading level => ((Writer.ofConfig c).openTag (headingName level)).write

end Element

theorem write_openingCode (marker : Text) :
    (Markup.opening "code" [.of "class" marker]).write = Diagram.openingTag marker := by
  have hend : marker ++ "\"".toList ++ [] ++ ">".toList = marker ++ "\">".toList := by
    rw [List.append_nil]
    exact List.append_assoc marker _ _
  exact congrArg ("<code class=\"".toList ++ ·) hend

theorem writeAll_codeElement {c : RenderConfig} {w : Writer} (hw : w.codeMarker = c.codeMarker) :
    writeAll w.codeElement = (Element.code w.code.block).write c := by
  rw [Writer.codeElement, writeAll, List.flatMap_cons, write_openingCode, hw]
  rfl

/-- A writer that no directive has changed. -/
structure Writer.Fresh (c : RenderConfig) (w : Writer) : Prop where
  interpreter : w.interpreter = .ofConfig c
  codeMarker : w.codeMarker = c.codeMarker
  suppress : w.suppressHtml = true

theorem Writer.Fresh.step {c : RenderConfig} {w : Writer} (hw : w.Fresh c) {e : Event}
    (h : w.commentsAt e = []) : (w.step e).1.Fresh c := by
  obtain ⟨image, table, he⟩ := Writer.step_fst h
  rw [he]
  exact ⟨hw.interpreter, hw.codeMarker, hw.suppress⟩

section

variable {c : RenderConfig} {A : Char → Prop}

theorem over_ofConfig (hname : ∀ d, (d.isAlphanum || d == '-') = true → A d)
    (hstyle : Text.Over A c.stylePrefix) : (Directive.Interpreter.ofConfig c).Over A c.app := by
  refine ⟨?_, hstyle, rfl⟩
  rw [Directive.Interpreter.ofConfig]
  split
  · exact StyleRegistry.over_seeded hname hstyle
  · exact fun e he => absurd he List.not_mem_nil

theorem isValueChar_of_isName {d : Char} (h : (d.isAlphanum || d == '-') = true) : isValueChar d = true :=
  isValueChar_of_class (p := fun d => d.isAlphanum || d == '-') rfl rfl rfl h

theorem Writer.Fresh.over (hA : ∀ c, isValueChar c = true → A c) (hstyle : Text.Over A c.stylePrefix) {w : Writer}
    (hw : w.Fresh c) : w.Over A c.app := by
  refine ⟨?_, ?_, hw.suppress⟩
  · rw [hw.interpreter]
    exact over_ofConfig (fun d hd => hA d (isValueChar_of_isName hd)) hstyle
  · rw [hw.codeMarker]
    exact hstyle.append (over_of_all hA (by decide))

end

theorem styles_seeded (p tag : Text) :
    (StyleRegistry.seeded p).styles tag = [] ∨ (StyleRegistry.seeded p).styles tag = [defaultClass p tag] := by
  unfold StyleRegistry.styles
  cases hl : (StyleRegistry.seeded p).entries.lookup tag with
  | none => exact .inl rfl
  | some styles =>
    obtain ⟨xs, ys, he, _⟩ := List.lookup_eq_some_iff.mp hl
    have hmem : (tag, styles) ∈ (StyleRegistry.seeded p).entries := by
      rw [he]
      exact List.mem_append_right _ List.mem_cons_self
    obtain ⟨t, _, ht⟩ := List.mem_map.mp hmem
    obtain ⟨rfl, rfl⟩ := Prod.mk.inj ht
    exact .inr rfl

/-- A tag has its default class or none before directives run. -/
theorem classAttribute_ofConfig (c : RenderConfig) (tag : Text) :
    (Writer.ofConfig c).classAttribute tag = [] ∨
      (Writer.ofConfig c).classAttribute tag = [.of "class" (defaultClass c.stylePrefix tag)] := by
  rw [Writer.classAttribute, Writer.ofConfig, Directive.Interpreter.ofConfig, StyleRegistry.classAttribute,
    StyleRegistry.classes]
  cases c.defaultStyles with
  | false => exact .inl rfl
  | true =>
    rcases styles_seeded c.stylePrefix tag with h | h
    · left
      exact if_pos h
    · right
      rw [if_pos rfl, h, if_neg (List.cons_ne_nil _ _), Text.joinWith, List.intercalate_singleton]

theorem mem_attributes_ofConfig {c : RenderConfig} {tag : Text} {d : Char}
    (h : d ∈ writeAttributes ((Writer.ofConfig c).classAttribute tag)) :
    d ∈ c.stylePrefix ∨ d ∈ tag ∨ d ∈ " class=\"md-".toList := by
  rcases classAttribute_ofConfig c tag with he | he
  · rw [he] at h
    exact absurd h List.not_mem_nil
  · rw [he] at h
    obtain ⟨a, ha, hd⟩ := List.mem_flatMap.mp h
    rw [List.mem_singleton] at ha
    subst ha
    have hsub : ∀ {t : Text}, t ⊆ " class=\"md-".toList → d ∈ t →
        d ∈ c.stylePrefix ∨ d ∈ tag ∨ d ∈ " class=\"md-".toList := fun ht hd => .inr (.inr (ht hd))
    rcases List.mem_append.mp hd with hd | hd
    · rcases List.mem_append.mp hd with hd | hd
      · exact hsub (t := " class=\"") (by decide) hd
      · rcases List.mem_append.mp hd with hd | hd
        · rcases List.mem_append.mp hd with hd | hd
          · exact .inl hd
          · exact hsub (by decide) hd
        · exact .inr (.inl hd)
    · exact hsub (t := "\"") (by decide) hd

theorem write_inlineCode (as : List Attribute) (t : Text) :
    writeAll [.opening "code" as, .verbatim t, .closing "code"] =
      '<' :: ("code" ++ (writeAttributes as ++ (">" ++ t))) ++ "</code>" := by
  have h : writeAttributes as ++ ">".toList ++ (t ++ "</code>".toList) =
      writeAttributes as ++ (">".toList ++ t) ++ "</code>".toList := by
    simp only [List.append_assoc]
  exact congrArg ("<code".toList ++ ·) h

section

variable {c : RenderConfig} (hstyle : ∀ d ∈ c.stylePrefix, d ≠ '<' ∧ d ≠ '\n') {w : Writer} (hw : w.Fresh c)
  {e : Event}
include hw

theorem step_element {element : Element} (he : elementAt? w.code e = some element) :
    writeAll (w.step e).2 = element.write c := by
  unfold elementAt? at he
  split at he
  · next level =>
    obtain rfl := Option.some.inj he
    have hopen : w.openTag (headingName level) = (Writer.ofConfig c).openTag (headingName level) := by
      rw [Writer.openTag, Writer.openTag, Writer.classAttribute, hw.interpreter]
      rfl
    rw [Element.write, ← hopen]
    exact List.flatMap_singleton _ _
  · obtain rfl := Option.some.inj he
    exact writeAll_codeElement hw.codeMarker
  · cases he

include hstyle

theorem inlineCode_calm {s : Text} (hs : '\n' ∉ s) : Calm c.codeMarker (writeAll (w.inlineCode s).2) := by
  have hmarker : '<' ∉ c.codeMarker := Diagram.notMem_marker fun h => (hstyle _ h).1 rfl
  unfold Writer.inlineCode
  split
  · exact .of_notMem List.not_mem_nil
  · have hattributes : w.classAttribute "code" = (Writer.ofConfig c).classAttribute "code" := by
      rw [Writer.classAttribute, hw.interpreter]
      rfl
    have hover := over_ofConfig (A := (· ≠ '<'))
      (fun _ hd => (ne_of_isValueChar (isValueChar_of_isName hd)).1) fun d hd => (hstyle d hd).1
    have hlt : '<' ∉ writeAttributes ((Writer.ofConfig c).classAttribute "code") ++ (">" ++ escape s) := by
      have hclass := lt_notMem_writeAttributes (hover.styles.classAttribute (by decide) "code")
      have hs := lt_notMem_escape s
      intro h
      rcases List.mem_append.mp h with h | h
      · exact hclass h
      · rcases List.mem_append.mp h with h | h
        · exact absurd h (by decide)
        · exact hs h
    have hline : '\n' ∉ writeAttributes ((Writer.ofConfig c).classAttribute "code") ++ (">" ++ escape s) := by
      intro h
      rcases List.mem_append.mp h with h | h
      · rcases mem_attributes_ofConfig h with h | h | h
        · exact (hstyle _ h).2 rfl
        · exact absurd h (by decide)
        · exact absurd h (by decide)
      · rcases List.mem_append.mp h with h | h
        · exact absurd h (by decide)
        · exact newline_notMem_escape hs h
    have hcalm := Calm.inlineCode hmarker hlt hline
    rw [Writer.openTag, hattributes, write_inlineCode]
    exact hcalm

/-- What an event writes that completes no element is calm. -/
theorem step_calm (h : w.commentsAt e = []) (hcode : ∀ s, e = .code s → '\n' ∉ s)
    (hnone : elementAt? w.code e = none) : Calm c.codeMarker (writeAll (w.step e).2) := by
  have hvalue : ∀ d, isValueChar d = true → d ≠ '<' := fun _ hd => (ne_of_isValueChar hd).1
  have hover := hw.over hvalue fun d hd => (hstyle d hd).1
  cases he : opensOwn e with
  | false =>
    apply Calm.writeAll
    apply step_uses_plain hvalue hover he
    rw [h]
    exact fun raw hraw => absurd hraw List.not_mem_nil
  | true =>
    unfold opensOwn at he
    split at he
    · cases hnone
    · cases hnone
    · next s => exact inlineCode_calm hstyle hw (hcode s rfl)
    · exact absurd he Bool.false_ne_true

end

/-- The written HTML of a run: its elements in their order, and calm text between them. -/
theorem run_layout {c : RenderConfig} (hstyle : ∀ d ∈ c.stylePrefix, d ≠ '<' ∧ d ≠ '\n') {w : Writer}
    (hw : w.Fresh c) {es : List Event} (hcomments : w.comments es = [])
    (hcodes : ∀ s, Event.code s ∈ es → '\n' ∉ s) :
    ∃ html : Interleaved Element, html.items = elements w.code es ∧
      (∀ g ∈ html.gaps, Calm c.codeMarker g) ∧ writeAll (w.run es).2 = html.write (Element.write c) := by
  induction es generalizing w with
  | nil =>
    refine ⟨⟨[], []⟩, rfl, ?_, rfl⟩
    intro g hg
    rw [Interleaved.gaps, List.map_nil, List.mem_singleton] at hg
    subst hg
    exact .of_notMem List.not_mem_nil
  | cons e es ih =>
    rw [Writer.comments, List.append_eq_nil_iff] at hcomments
    obtain ⟨hat, hrest⟩ := hcomments
    obtain ⟨⟨first, rest⟩, hitems, hgaps, htext⟩ :=
      ih (hw.step hat) hrest fun s hs => hcodes s (List.mem_cons_of_mem e hs)
    have hcode : (w.step e).1.code = w.code.after e := by
      obtain ⟨image, table, hstep⟩ := Writer.step_fst hat
      rw [hstep]
    rw [hcode] at hitems
    rw [Writer.run, writeAll_append, htext, elements]
    simp only [Interleaved.gaps, List.forall_mem_cons] at hgaps
    cases he : elementAt? w.code e with
    | none =>
      have hcalm := step_calm hstyle hw hat (fun s hs => hcodes s (hs ▸ List.mem_cons_self)) he
      refine ⟨⟨writeAll (w.step e).2 ++ first, rest⟩, hitems, ?_, ?_⟩
      · exact List.forall_mem_cons.mpr ⟨hcalm.append hgaps.1, hgaps.2⟩
      · rw [Interleaved.write, Interleaved.write, List.append_assoc]
    | some element =>
      refine ⟨⟨[], (element, first) :: rest⟩, ?_, ?_, ?_⟩
      · rw [← hitems]
        rfl
      · exact List.forall_mem_cons.mpr ⟨.of_notMem List.not_mem_nil, List.forall_mem_cons.mpr hgaps⟩
      · rw [step_element hw he, Interleaved.write, Interleaved.write, Interleaved.writeRest,
          Interleaved.writeRest, List.flatMap_cons, List.append_assoc]
        rfl

end Markweave.Html
