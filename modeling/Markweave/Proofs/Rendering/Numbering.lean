import Markweave.Proofs.HeadingTag
import Markweave.Proofs.Html.Elements
import Markweave.Proofs.Rendering.IdOwner
import Markweave.Proofs.Substitution
import Markweave.Rendering

namespace Markweave

open Diagram (CodeBlock Item rank isBodyChar)
open Html (CodeState Element Calm elements escapeLenient startsNoHeading writeAttributes)
open Markdown (Event HeadingLevel)

namespace Rendering

/-- All spellings that are put right, in one text. -/
def respell (s : Text) : Text := Substitution.applyAll entityFixups s

theorem respell_splits {c : Char} (hc : c ∉ "&mdash;".toList ∧ c ∉ "&amp;gt;".toList) :
    Text.Splits c respell := by
  apply Substitution.splits_applyAll
  intro r hr
  simp only [entityFixups, List.mem_cons, List.not_mem_nil, or_false] at hr
  rcases hr with rfl | rfl
  · exact ⟨by decide, hc.1⟩
  · exact ⟨by decide, hc.2⟩

theorem respell_of_notMem {s : Text} (h : '&' ∉ s) : respell s = s := by
  have hamp : ∀ r ∈ entityFixups, '&' ∈ r.old := by decide
  exact Substitution.applyAll_of_notMem hamp h

theorem lt_notMem_respell {s : Text} (h : '<' ∉ s) : '<' ∉ respell s := by
  have hlt : ∀ r ∈ entityFixups, '<' ∉ r.new := by decide
  exact Substitution.notMem_applyAll hlt h

theorem respell_cons {c : Char} (hc : c ≠ '&') (s : Text) : respell (c :: s) = c :: respell s := by
  have hone : ∀ (old new : Text), old.head? = some '&' → ∀ s, Text.replace old new (c :: s) =
      c :: Text.replace old new s := by
    intro old new hold s
    obtain ⟨t, rfl⟩ := List.head?_eq_some_iff.mp hold
    exact Text.replace_cons new (List.cons_ne_nil _ _) (Text.dropStart?_of_head_ne (Ne.symm hc))
  have hdash := hone "&mdash;" "---" (by decide)
  have hgt := hone "&amp;gt;" "&gt;" (by decide)
  exact (congrArg (Text.replace "&amp;gt;" "&gt;") (hdash s)).trans (hgt _)

theorem startsNoHeading_respell {v : Text} (h : startsNoHeading v = true) :
    startsNoHeading (respell v) = true := by
  match v with
  | [] => exact absurd h Bool.false_ne_true
  | c :: r =>
    by_cases hc : c = 'h'
    · subst hc
      cases r with
      | nil => exact absurd h Bool.false_ne_true
      | cons d r =>
        simp only [startsNoHeading, Bool.and_eq_true, bne_iff_ne] at h
        rw [respell_cons (by decide), respell_cons h.1]
        simp [startsNoHeading, h]
    · have hplain : ∀ s, startsNoHeading (c :: s) = (c != '&' && c != 'h') := by
        intro s
        unfold startsNoHeading
        split
        · next he => exact absurd (List.cons.inj he).1 hc
        · next he =>
          obtain ⟨rfl, _⟩ := List.cons.inj he
          rfl
        · next he => cases he
      rw [hplain, Bool.and_eq_true, bne_iff_ne] at h
      rw [respell_cons h.1, hplain]
      simp [h]

/-- Spellings inside a tag pair without references around it. -/
theorem respell_between {a z : Text} (ha : '&' ∉ a) (hz : '&' ∉ z) (body : Text) :
    respell (a ++ '>' :: (body ++ '<' :: z)) = a ++ '>' :: (respell body ++ '<' :: z) := by
  have hopen : Text.Splits '<' respell := respell_splits (by decide)
  have hclose : Text.Splits '>' respell := respell_splits (by decide)
  rw [hclose, hopen, respell_of_notMem ha, respell_of_notMem hz]

theorem respell_kindPlaceholder {k : DiagramKind} (hk : k ∈ DiagramKind.all) (id : UInt64) (body : Text) :
    respell (k.placeholder id body) = k.placeholder id (respell body) := by
  have hstart : '&' ∉ (IdOwner.diagram k hk).tagStart id := IdOwner.notMem_tagStart (by decide) _ id
  have hclass : '&' ∉ Diagram.kindClass k := Diagram.notMem_kindClass (by decide) hk
  have hleft : '&' ∉ '<' :: ((IdOwner.diagram k hk).tagStart id ++ Diagram.kindClass k) := by
    simp [hstart, hclass]
  rw [Diagram.kindPlaceholder_eq hk, Diagram.kindPlaceholder_eq hk]
  exact respell_between (z := "/div>") hleft (by decide) body

theorem respell_codePlaceholder {stylePrefix : Text} (hstyle : '&' ∉ stylePrefix) (id : UInt64)
    (body : Text) : respell (Diagram.codePlaceholder stylePrefix id body) =
      Diagram.codePlaceholder stylePrefix id (respell body) := by
  have hstart : '&' ∉ IdOwner.code.tagStart id := IdOwner.notMem_tagStart (by decide) _ id
  have hclass : '&' ∉ Diagram.codeClass stylePrefix := Diagram.notMem_codeClass (by decide) hstyle
  have hleft : '&' ∉ "<pre>" ++ '<' :: (IdOwner.code.tagStart id ++ Diagram.codeClass stylePrefix) := by
    simp [hstart, hclass]
  rw [Diagram.codePlaceholder_eq, Diagram.codePlaceholder_eq]
  exact respell_between (z := "/code></pre>") hleft (by decide) body

/-- Putting spellings right concerns the body of a placeholder only. -/
theorem respell_placeholder {stylePrefix : Text} (hstyle : '&' ∉ stylePrefix) (b : CodeBlock)
    (id : UInt64) : respell (b.placeholder stylePrefix id) =
      (CodeBlock.mk b.info (respell b.body)).placeholder stylePrefix id := by
  have hpass : (CodeBlock.mk b.info (respell b.body)).pass = b.pass := rfl
  rw [CodeBlock.placeholder, CodeBlock.placeholder, hpass]
  cases hk : DiagramKind.all[b.pass]? with
  | none => exact respell_codePlaceholder hstyle id b.body
  | some k => exact respell_kindPlaceholder (List.mem_of_getElem? hk) id b.body

end Rendering

namespace Html.Element

open Rendering (respell)

/-- The pass that numbers an element; headings come after all code. -/
def pass : Element → Nat
  | code b => b.pass
  | heading _ => DiagramKind.all.length + 1

def digit : HeadingLevel → Char
  | .h1 => '1'
  | .h2 => '2'
  | .h3 => '3'
  | .h4 => '4'
  | .h5 => '5'
  | .h6 => '6'

/-- The opening tag of a heading, with the classes that every document starts with. -/
def headingTag (c : RenderConfig) (level : HeadingLevel) : HeadingIds.HeadingTag :=
  ⟨digit level, writeAttributes ((Writer.ofConfig c).classAttribute (headingName level))⟩

/-- An element under its number in finished HTML. -/
def placed (c : RenderConfig) (id : UInt64) : Element → Text
  | code b => (CodeBlock.mk b.info (respell (escapeLenient b.body))).placeholder c.stylePrefix id
  | heading level => HeadingIds.writeTag id (headingTag c level)

/-- An element as the extraction sees it. -/
def toItem (c : RenderConfig) : Element → Item
  | code b => .code (escaped b)
  | heading level => .tag ((heading level).write c)

/-- An element when its code has a number and headings have none yet. -/
def half (c : RenderConfig) (id : UInt64) : Element → Text
  | code b => (code b).placed c id
  | heading level => (heading level).write c

theorem headingName_eq (level : HeadingLevel) : headingName level = ['h', digit level] := by
  cases level <;> rfl

theorem write_heading (c : RenderConfig) (level : HeadingLevel) :
    (heading level).write c =
      "<h" ++ [(headingTag c level).digit] ++ (headingTag c level).attributes ++ ">" := by
  rw [write, Writer.openTag, Markup.write, headingTag, headingName_eq]
  rfl

theorem pass_toItem (c : RenderConfig) (element : Element) : (element.toItem c).pass = element.pass := by
  cases element with
  | code b => exact pass_escapeLenient b.info b.body
  | heading level => rfl

theorem write_toItem (c : RenderConfig) (element : Element) :
    (element.toItem c).write (c.stylePrefix ++ "md-code") = element.write c := by
  cases element with
  | code b => rfl
  | heading level => rfl

theorem notMem_headingAttributes {c : RenderConfig} (hstyle : c.stylePrefix.all Settings.isPrefixChar = true)
    (level : HeadingLevel) {d : Char} (hd : Settings.isPrefixChar d = false)
    (hclass : d ∉ " class=\"md-".toList) : d ∉ (headingTag c level).attributes := by
  have hname : (headingName level).all Settings.isPrefixChar = true := by
    rw [headingName_eq]
    cases level <;> decide
  intro h
  rcases mem_attributes_ofConfig h with h | h | h
  · rw [List.all_eq_true.mp hstyle d h] at hd
    cases hd
  · rw [List.all_eq_true.mp hname d h] at hd
    cases hd
  · exact hclass h

theorem notMem_write_heading {c : RenderConfig} (hstyle : c.stylePrefix.all Settings.isPrefixChar = true)
    (level : HeadingLevel) {d : Char} (hd : Settings.isPrefixChar d = false)
    (hclass : d ∉ "<> class=\"md-".toList) : d ∉ (heading level).write c := by
  have hsub : " class=\"md-".toList ⊆ "<> class=\"md-".toList := by decide
  have hattributes := notMem_headingAttributes hstyle level hd fun h => hclass (hsub h)
  have hdigit : Settings.isPrefixChar (digit level) = true := by cases level <;> rfl
  rw [write_heading]
  intro h
  simp only [List.mem_append] at h
  rcases h with ((h | h) | h) | h
  · rcases List.mem_cons.mp h with rfl | h
    · exact absurd (by decide) hclass
    · obtain rfl := List.mem_singleton.mp h
      exact absurd hd (by decide)
  · rw [List.mem_singleton] at h
    subst h
    exact absurd (hdigit.symm.trans hd) (by decide)
  · exact hattributes h
  · have hclose : ">".toList ⊆ "<> class=\"md-".toList := by decide
    exact hclass (hclose h)

theorem isProper_headingTag {c : RenderConfig} (hstyle : c.stylePrefix.all Settings.isPrefixChar = true)
    (level : HeadingLevel) : (headingTag c level).IsProper := by
  have hdigit : HeadingIds.isHeadingDigit (digit level) = true := by
    cases level <;> rfl
  refine ⟨HeadingIds.isHeadingDigit_iff.mp hdigit, ?_,
    notMem_headingAttributes hstyle level (by decide) (by decide)⟩
  rw [headingTag]
  rcases classAttribute_ofConfig c (headingName level) with h | h
  · rw [h]
    exact nofun
  · rw [h]
    intro d hd
    obtain rfl := Option.some.inj hd
    rfl

/-- The conditions on the code of a document: info strings of one line, bodies without control characters. -/
def CodeSound (elements : List Element) : Prop :=
  ∀ b, Element.code b ∈ elements → '\n' ∉ b.info ∧ ∀ d ∈ b.body, isBodyChar d = true

/-- The conditions on the code that is collected. -/
structure CollectsSound (k : CodeState) : Prop where
  info : '\n' ∉ k.info
  content : ∀ d ∈ k.content, isBodyChar d = true

namespace CollectsSound

theorem append {k : CodeState} (h : CollectsSound k) {s : Text} (hs : ∀ d ∈ s, isBodyChar d = true) :
    CollectsSound { k with content := k.content ++ s } :=
  ⟨h.info, List.forall_mem_append.mpr ⟨h.content, hs⟩⟩

/-- An event keeps the conditions when they hold of what it brings. -/
theorem after {k : CodeState} {e : Event} (h : CollectsSound k)
    (hinfo : ∀ info, e = .start (.code (.fenced info)) → '\n' ∉ info)
    (htext : ∀ s, e = .text s → k.active = true → ∀ d ∈ s, isBodyChar d = true) : CollectsSound (k.after e) := by
  cases e with
  | text s =>
    rw [CodeState.after]
    split
    · next hactive => exact h.append (htext s rfl hactive)
    · exact h
  | softBreak =>
    rw [CodeState.after]
    split
    · exact h.append (List.forall_mem_singleton.mpr (by decide))
    · exact h
  | start tag =>
    cases tag with
    | code kind =>
      cases kind with
      | fenced info => exact ⟨hinfo info rfl, List.forall_mem_nil _⟩
      | indented => exact ⟨List.not_mem_nil, List.forall_mem_nil _⟩
    | _ => exact h
  | stop tag =>
    cases tag with
    | code => exact ⟨List.not_mem_nil, List.forall_mem_nil _⟩
    | _ => exact h
  | _ => exact h

theorem block {k : CodeState} (h : CollectsSound k) :
    '\n' ∉ k.block.info ∧ ∀ d ∈ k.block.body, isBodyChar d = true := by
  refine ⟨h.info, ?_⟩
  intro d hd
  rw [CodeState.block] at hd
  dsimp only at hd
  split at hd
  · rcases Source.mem_restoreBlankLines hd with rfl | hd
    · decide
    · exact h.content d hd
  · exact h.content d hd

end CollectsSound

theorem codeText_cons (k : CodeState) (e : Event) (es : List Event) :
    codeText k (e :: es) =
      (match e with | .text s => if k.active then s else [] | _ => []) ++ codeText (k.after e) es := by
  cases e <;> rfl

/-- The conditions hold when they hold of the events, by induction with the code that is collected. -/
theorem codeSound_elements {k : CodeState} {es : List Event} (hk : CollectsSound k)
    (hinfos : ∀ info, Event.start (.code (.fenced info)) ∈ es → '\n' ∉ info)
    (htext : ∀ d ∈ codeText k es, isBodyChar d = true) : CodeSound (elements k es) := by
  induction es generalizing k with
  | nil => exact fun b hb => absurd hb List.not_mem_nil
  | cons e es ih =>
    rw [codeText_cons, List.forall_mem_append] at htext
    have hafter : CollectsSound (k.after e) := by
      refine hk.after (fun info he => hinfos info (he ▸ List.mem_cons_self)) ?_
      rintro s rfl hactive
      simpa [hactive] using htext.1
    intro b hb
    rw [elements] at hb
    rcases List.mem_append.mp hb with hb | hb
    · rw [Option.mem_toList] at hb
      unfold elementAt? at hb
      split at hb
      · cases hb
      · obtain rfl := Element.code.inj (Option.some.inj hb)
        exact hk.block
      · cases hb
    · exact ih hafter (fun info h => hinfos info (List.mem_cons_of_mem e h)) htext.2 b hb

theorem sound_escaped {b : CodeBlock} (hinfo : '\n' ∉ b.info) (hbody : ∀ d ∈ b.body, isBodyChar d = true) :
    (escaped b).Sound := by
  constructor
  · intro d hd
    refine ⟨?_, ?_⟩
    · rintro rfl
      exact newline_notMem_escapeLenient hinfo hd
    · rintro rfl
      exact lt_notMem_escapeLenient _ hd
  · intro d hd
    refine ⟨?_, isBodyChar_escapeLenient hbody d hd⟩
    rintro rfl
    exact lt_notMem_escapeLenient _ hd

theorem fits_toItem {c : RenderConfig} (hstyle : c.stylePrefix.all Settings.isPrefixChar = true)
    {elements : List Element} (hcode : CodeSound elements) :
    ∀ element ∈ elements, (element.toItem c).Fits (c.stylePrefix ++ "md-code") := by
  intro element he
  cases element with
  | code b => exact sound_escaped (hcode b he).1 (hcode b he).2
  | heading level =>
    have hattributes := notMem_headingAttributes hstyle level (d := '<') (by decide) (by decide)
    have hdigit : digit level ≠ '<' := by cases level <;> decide
    have htag : (heading level).write c =
        '<' :: 'h' :: digit level :: ((headingTag c level).attributes ++ ">") := write_heading c level
    refine ⟨?_, ?_⟩
    · rw [htag]
      rfl
    · have ht : '<' ∉ 'h' :: digit level :: ((headingTag c level).attributes ++ ">") := by
        simp [hattributes, Ne.symm hdigit]
      rw [htag]
      exact Diagram.OpensNoCode.tag ht fun s => rfl

end Html.Element

namespace Rendering

open Html.Element (CodeSound)

/-- The number of an element when the first one drawn is `n`. -/
def numbered (html : Interleaved Element) (n : UInt64) (x : Element × Nat) : UInt64 :=
  n + .ofNat (rank (html.items.map Element.pass) x.1.pass x.2)

section

variable {c : RenderConfig} (hstyle : c.stylePrefix.all Settings.isPrefixChar = true)
  {html : Interleaved Element} (hgaps : ∀ g ∈ html.gaps, Calm c.codeMarker g) (hcode : CodeSound html.items)
  (n : UInt64)
include hstyle hgaps hcode

theorem extract_elements :
    Diagram.extract c.stylePrefix ⟨n⟩ (html.write (Element.write c)) =
      (html.indexed.write fun x => (x.1.toItem c).placed c.stylePrefix (numbered html n x),
        ⟨n + .ofNat (html.items.countP (·.pass < DiagramKind.all.length + 1))⟩) := by
  have hitems : ∀ i ∈ (html.map (Element.toItem c)).items, i.Fits (c.stylePrefix ++ "md-code") := by
    intro i hi
    rw [Interleaved.items_map] at hi
    obtain ⟨element, he, rfl⟩ := List.mem_map.mp hi
    exact Html.Element.fits_toItem hstyle hcode element he
  have hinline : ∀ g ∈ (html.map (Element.toItem c)).gaps,
      Diagram.HoldsCodeInline (c.stylePrefix ++ "md-code") g := by
    rw [Interleaved.gaps_map]
    exact fun g hg => (hgaps g hg).holdsCodeInline
  have h := Diagram.extract_items (n := n) (Diagram.notMem_of_isPrefixChar hstyle) hinline hitems
  have hpasses : (html.map (Element.toItem c)).items.map Item.pass = html.items.map Element.pass := by
    rw [Interleaved.items_map, List.map_map]
    exact congrArg (html.items.map ·) (funext (Html.Element.pass_toItem c))
  have hcount : (html.map (Element.toItem c)).items.countP Item.isCode =
      html.items.countP (·.pass < DiagramKind.all.length + 1) := by
    rw [Interleaved.items_map, List.countP_map]
    apply List.countP_congr
    intro element _
    cases element with
    | code b => simp [Element.toItem, Item.isCode, Element.pass, Nat.lt_succ_of_le b.pass_le]
    | heading level => simp [Element.toItem, Item.isCode, Element.pass]
  rw [Interleaved.write_map, Interleaved.indexed_map, Interleaved.write_map, hcount] at h
  have hwrite : Item.write (c.stylePrefix ++ "md-code") ∘ Element.toItem c = Element.write c :=
    funext (Html.Element.write_toItem c)
  rw [hwrite] at h
  rw [h]
  congr 2
  funext x
  rw [Function.comp_apply, Diagram.numbered, hpasses, Html.Element.pass_toItem]
  rfl

end

section

variable {c : RenderConfig} (hstyle : c.stylePrefix.all Settings.isPrefixChar = true)
  {html : Interleaved Element} (n : UInt64)
include hstyle

/-- After the extraction the spellings of the gaps and of the code are put right. -/
theorem respell_elements :
    respell (html.indexed.write fun x => (x.1.toItem c).placed c.stylePrefix (numbered html n x)) =
      (html.indexed.mapGaps respell).write fun x => x.1.half c (numbered html n x) := by
  have hamp : '&' ∉ c.stylePrefix := by
    intro h
    exact absurd (List.all_eq_true.mp hstyle _ h) (by decide)
  have hnil : respell [] = [] := respell_of_notMem List.not_mem_nil
  have hitems : ∀ x ∈ html.indexed.items,
      ∃ t, (x.1.toItem c).placed c.stylePrefix (numbered html n x) = '<' :: (t ++ ['>']) := by
    rintro ⟨element, k⟩ _
    cases element with
    | code b => exact CodeBlock.placeholder_bracketed c.stylePrefix _ _
    | heading level => exact ⟨_, Html.Element.write_heading c level⟩
  rw [Interleaved.apply_write (respell_splits (by decide)) (respell_splits (by decide)) hnil hitems]
  congr 1
  funext x
  obtain ⟨element, k⟩ := x
  cases element with
  | code b =>
    rw [Element.toItem, Item.placed, respell_placeholder hamp]
    exact CodeBlock.placeholder_congr (Html.pass_escapeLenient b.info b.body) rfl
  | heading level =>
    exact respell_of_notMem (Html.Element.notMem_write_heading hstyle level (by decide) (by decide))

theorem quiet_half {element : Element} (hcode : ∀ level, element ≠ .heading level) (id : UInt64) :
    HeadingIds.tag.Quiet (element.half c id) := by
  cases element with
  | heading level => exact absurd rfl (hcode level)
  | code b =>
    apply HeadingIds.quiet_of_startsNoHeading
    refine CodeBlock.atTags_placeholder ?_ (by decide) (Diagram.notMem_of_isPrefixChar hstyle) ?_ id
    · exact fun v s hv => Html.startsNoHeading_append hv s
    · exact lt_notMem_respell (Html.lt_notMem_escapeLenient b.body)

theorem treats_half (x : Element × Nat) :
    HeadingIds.tag.Treats HeadingIds.writeTag (fun x => x.1.half c (numbered html n x))
      (fun x => x.1.placed c (numbered html n x)) (numbered html n)
      (fun x => x.1.pass == DiagramKind.all.length + 1) x := by
  obtain ⟨element, k⟩ := x
  cases element with
  | code b =>
    have hpass : b.pass ≠ DiagramKind.all.length + 1 := by
      have := b.pass_le
      omega
    refine ⟨CodeBlock.head?_placeholder _ _, ?_, fun _ => ⟨quiet_half hstyle (by simp) _, rfl⟩⟩
    intro h
    exact absurd (by simpa [Element.pass] using h) hpass
  | heading level =>
    refine ⟨?_, ?_, ?_⟩
    · rw [Element.half, Html.Element.write_heading]
      rfl
    · intro _
      refine ⟨Html.Element.headingTag c level, ?_, rfl⟩
      intro s
      apply HeadingIds.readTag?_eq_some_iff.mpr
      refine ⟨Html.Element.isProper_headingTag hstyle level, ?_⟩
      rw [Element.half, Html.Element.write_heading]
      rfl
    · intro h
      simp [Element.pass] at h

/-- The heading pass numbers the headings behind all code. -/
theorem inject_elements (hgaps : ∀ g ∈ html.gaps, Calm c.codeMarker g) :
    HeadingIds.inject ⟨n + .ofNat (html.items.countP (·.pass < DiagramKind.all.length + 1))⟩
        ((html.indexed.mapGaps respell).write fun x => x.1.half c (numbered html n x)) =
      ((html.indexed.mapGaps respell).write fun x => x.1.placed c (numbered html n x),
        ⟨n + .ofNat html.items.length⟩) := by
  have hquiet : ∀ g ∈ (html.indexed.mapGaps respell).gaps, HeadingIds.tag.QuietGap g := by
    intro g hg
    rw [Interleaved.gaps_mapGaps, Interleaved.gaps_indexed] at hg
    obtain ⟨gap, hgap, rfl⟩ := List.mem_map.mp hg
    apply Pattern.Quiet.gap
    apply HeadingIds.quiet_of_startsNoHeading
    exact (hgaps gap hgap).headings.apply (respell_splits (by decide)) (fun _ => lt_notMem_respell)
      fun _ => startsNoHeading_respell
  have hnumber : ∀ xs x ys, (html.indexed.mapGaps respell).items = xs ++ x :: ys →
      (x.1.pass == DiagramKind.all.length + 1) = true →
      numbered html n x = n + .ofNat (html.items.countP (·.pass < DiagramKind.all.length + 1)) +
        .ofNat (xs.countP fun x => x.1.pass == DiagramKind.all.length + 1) := by
    intro xs x ys he hx
    rw [Interleaved.items_mapGaps, Interleaved.items_indexed] at he
    have hpass : x.1.pass = DiagramKind.all.length + 1 := by simpa using hx
    rw [numbered, Diagram.rank_of_zipIdx Element.pass he, hpass, UInt64.ofNat_add, ← UInt64.add_assoc]
  rw [HeadingIds.inject, HeadingIds.tag.renumber_interleaved HeadingIds.writeTag _ hquiet
    (fun x _ => treats_half hstyle n x) hnumber]
  congr 2
  rw [UInt64.add_assoc, ← UInt64.ofNat_add, Interleaved.items_mapGaps, Interleaved.items_indexed,
    Diagram.countP_pass_zipIdx Element.pass, Diagram.countP_pass_succ]
  congr 2
  apply List.countP_eq_length.mpr
  intro element _
  cases element with
  | code b => simp [Element.pass, Nat.lt_succ_of_le (Nat.le_succ_of_le b.pass_le)]
  | heading level => simp [Element.pass]

end

/-- Whatever the events are, exactly the ends of code and the starts of headings draw a number. Code becomes
the placeholder of its kind with its text inside, in the order of the passes, then headings receive their
ids in the order of the events; between them only spellings are put right. -/
theorem numberElements_write {c : RenderConfig} (hsuppress : c.extensions.suppressHtml = true)
    (hstyle : c.stylePrefix.all Settings.isPrefixChar = true) {events : List Event}
    (htexts : ∀ s, Event.text s ∈ events → Text.contains "<!---" s = false)
    (hraw : Text.contains "<!---" (Html.rawHtml events) = false)
    (hcodes : ∀ s, Event.code s ∈ events → '\n' ∉ s)
    (hinfos : ∀ info, Event.start (.code (.fenced info)) ∈ events → '\n' ∉ info)
    (htext : ∀ d ∈ Html.codeText .idle events, isBodyChar d = true) (n : UInt64) :
    ∃ html : Interleaved Element, html.items = elements .idle events ∧
      Html.writeAll (Html.write c events) = html.write (Element.write c) ∧
      numberElements c.stylePrefix ⟨n⟩ (Html.writeAll (Html.write c events)) =
        ((html.mapGaps respell).indexed.write fun (element, i) =>
            element.placed c (n + .ofNat (rank (html.items.map Element.pass) element.pass i)),
          ⟨n + .ofNat (events.countP Html.drawsId)⟩) := by
  have hcomments := Html.comments_ofConfig_eq_nil c htexts hraw
  have hchars : ∀ d ∈ c.stylePrefix, d ≠ '<' ∧ d ≠ '\n' := by
    intro d hd
    have hp := List.all_eq_true.mp hstyle d hd
    refine ⟨?_, ?_⟩
    · rintro rfl
      exact absurd hp (by decide)
    · rintro rfl
      exact absurd hp (by decide)
  have hfresh : (Html.Writer.ofConfig c).Fresh c := ⟨rfl, rfl, hsuppress⟩
  obtain ⟨html, hitems, hgaps, hwrite⟩ := Html.run_layout hchars hfresh hcomments hcodes
  have hcode : CodeSound html.items := by
    rw [hitems]
    exact Html.Element.codeSound_elements ⟨List.not_mem_nil, List.forall_mem_nil _⟩ hinfos
      htext
  have hcount : events.countP Html.drawsId = html.items.length := by
    rw [hitems]
    exact (Html.length_elements _ _).symm
  refine ⟨html, hitems, hwrite, ?_⟩
  rw [Html.write, hwrite, numberElements, extract_elements hstyle hgaps hcode n]
  dsimp only
  rw [← respell, respell_elements hstyle n, inject_elements hstyle n hgaps, Interleaved.indexed_mapGaps,
    hcount]
  rfl

/-- A heading, a diagram and an inline piece of code. -/
def headingAndDiagram : List Event :=
  [.start (.heading .h1), .text "a", .stop (.heading .h1), .start (.code (.fenced "mermaid")), .text "b & c",
    .stop .code, .html "<i>", .code "d"]

def numberedHtml : Text :=
  "<h1 id=\"heading_8\" class=\"jsh-md-h1\">a</h1>".toList ++
    "<div id=\"inlineMermaid7\" class=\"mermaid\">b &amp; c</div>".toList ++
    "&lt;i&gt;<code class=\"jsh-md-code\">d</code>".toList

/-- The diagram draws its number before the heading above it does. -/
theorem numberElements_write_heading_and_code : ∃ html : Interleaved Element,
    html.items = [.heading .h1, .code ⟨"mermaid", "b & c"⟩] ∧
    numberElements "jsh-" ⟨7⟩ (Html.writeAll (Html.write .default headingAndDiagram)) =
      ((html.mapGaps respell).indexed.write fun (element, i) =>
          element.placed .default (7 + .ofNat (rank (html.items.map Element.pass) element.pass i)), ⟨9⟩) ∧
    (html.mapGaps respell).indexed.write (fun (element, i) =>
        element.placed .default (7 + .ofNat (rank (html.items.map Element.pass) element.pass i))) = numberedHtml := by
  have htexts : ∀ s ∈ ["a".toList, "b & c".toList], Text.contains "<!---" s = false := by decide
  obtain ⟨html, hitems, _, h⟩ := @numberElements_write .default rfl (by decide) headingAndDiagram
    (fun s hs => htexts s (by simpa [headingAndDiagram] using hs)) (by decide) (by simp [headingAndDiagram])
    (by simp [headingAndDiagram]) (List.all_eq_true.mp (by decide)) 7
  have hshown :
      (numberElements "jsh-" ⟨7⟩ (Html.writeAll (Html.write .default headingAndDiagram))).1 = numberedHtml := by
    decide +kernel
  exact ⟨html, hitems, h, (congrArg Prod.fst h).symm.trans hshown⟩

end Rendering
end Markweave
