import Mathlib.Data.List.Infix
import Markweave.Proofs.HeadingIds
import Markweave.Proofs.Rendering.LiveMarkup

namespace Markweave

namespace Interleaved

variable {ι : Type} {n : Text}

theorem infix_bracketed_iff (hopen : '<' ∉ n) (hclose : '>' ∉ n) (t : Text) :
    n <:+: '<' :: (t ++ ['>']) ↔ n <:+: t := by
  have hnil : n <:+: [] → n <:+: t := fun h => h.trans List.nil_infix
  have hfront := Text.infix_append_cons_iff (a := []) (b := t ++ ['>']) hopen
  rw [List.nil_append] at hfront
  rw [hfront, Text.infix_append_cons_iff hclose]
  exact ⟨fun h => h.elim hnil fun h => h.elim id hnil, fun h => .inr (.inl h)⟩

/-- When items stand in brackets, what holds no bracket stands in a gap or in an item. -/
theorem infix_write_iff (hopen : '<' ∉ n) (hclose : '>' ∉ n) {write : ι → Text} {l : Interleaved ι}
    (h : ∀ i ∈ l.items, ∃ t, write i = '<' :: (t ++ ['>'])) :
    n <:+: l.write write ↔ (∃ gap ∈ l.gaps, n <:+: gap) ∨ ∃ i ∈ l.items, n <:+: write i := by
  obtain ⟨first, rest⟩ := l
  simp only [items, gaps, Interleaved.write] at h ⊢
  induction rest generalizing first with
  | nil => simp [writeRest]
  | cons x rest ih =>
    obtain ⟨i, gap⟩ := x
    simp only [List.map_cons, List.forall_mem_cons] at h
    obtain ⟨t, ht⟩ := h.1
    have hsplit : first ++ writeRest write ((i, gap) :: rest) =
        first ++ '<' :: (t ++ '>' :: (gap ++ writeRest write rest)) := by
      simp [writeRest, ht]
    rw [hsplit, Text.infix_append_cons_iff hopen, Text.infix_append_cons_iff hclose, ih gap h.2,
      ← infix_bracketed_iff hopen hclose t, ← ht]
    simp only [List.map_cons, List.mem_cons, exists_eq_or_imp, or_assoc]
    rw [or_left_comm (a := n <:+: write i), or_left_comm (a := n <:+: write i)]

end Interleaved

namespace HeadingIds

variable {n : Text}

theorem spell_bracketed (inserted : Text) (t : HeadingTag) :
    t.spell inserted = '<' :: ('h' :: t.digit :: (inserted ++ t.attributes) ++ ['>']) := by
  simp [HeadingTag.spell]

variable {c : Char} (hbracket : '<' ∉ n ∧ '>' ∉ n) (hquote : '"' ∉ n) (hc : c ∈ n)
  (hstart : IdOwner.isStartChar c = false)
include hbracket hquote hc hstart

/-- What is put in behind the name of a heading is no part of such a needle. -/
theorem infix_of_infix_spell {t : HeadingTag} (ht : t.IsProper) {id : UInt64}
    (h : n <:+: t.spell (idAttribute id)) : n <:+: t.spell [] := by
  obtain ⟨digit, attributes⟩ := t
  have hdigit : isHeadingDigit digit = true := isHeadingDigit_iff.mpr ht.digit
  generalize ho : IdOwner.heading digit hdigit = o
  have hspell : HeadingTag.spell (idAttribute id) ⟨digit, attributes⟩ =
      '<' :: (o.element ++ " id=\"" ++ o.id id ++ '"' :: attributes ++ ['>']) := by
    rw [← writeTag_eq_spell, writeTag_eq hdigit, ho]
    simp [IdOwner.tagStart]
  have hfront : ¬ n <:+: o.element ++ " id=\"" ++ o.id id := by
    intro h
    have hmem : c ∈ o.tagStart id := List.mem_append_left _ (h.subset hc)
    exact absurd (IdOwner.isStartChar_of_mem_tagStart hmem) (by simp [hstart])
  have hattributes : n <:+: attributes := by
    rw [hspell, Interleaved.infix_bracketed_iff hbracket.1 hbracket.2, Text.infix_append_cons_iff hquote] at h
    exact h.resolve_left hfront
  exact hattributes.trans ⟨['<', 'h', digit], ['>'], by simp [HeadingTag.spell]⟩

theorem infix_of_infix_inject {ids : IdCounter} {html : Text} (h : n <:+: (inject ids html).1) : n <:+: html := by
  obtain ⟨l, htagged⟩ := exists_tagged html
  rw [htagged.inject_eq ids.next, Interleaved.infix_write_iff hbracket.1 hbracket.2, Interleaved.gaps_indexed,
    Interleaved.items_indexed] at h
  · rw [htagged.source, Interleaved.infix_write_iff hbracket.1 hbracket.2 fun t _ => ⟨_, spell_bracketed [] t⟩]
    refine h.imp_right ?_
    rintro ⟨⟨t, k⟩, hmem, hinfix⟩
    have ht := List.fst_mem_of_mem_zipIdx hmem
    exact ⟨t, ht, infix_of_infix_spell hbracket hquote hc hstart (htagged.isProper t ht) hinfix⟩
  · exact fun x _ => ⟨_, spell_bracketed _ x.1⟩

end HeadingIds

namespace Diagram

variable {c : Char} {marker stylePrefix : Text}

theorem notMem_of_readCode? {skip? : Text → Option Text} {s body r : Text}
    (hskip : ∀ {s r}, skip? s = some r → skipInfo? s = some r) (h : readCode? marker skip? s = some (body, r))
    (hs : c ∉ s) : c ∉ body ∧ c ∉ r := by
  simp only [readCode?, readBody?, Option.bind_eq_some_iff, Option.filter_eq_some_iff] at h
  obtain ⟨head, hhead, text, htext, hbody, _⟩ := h
  obtain ⟨info, _, rfl⟩ := eq_append_of_skipInfo? (hskip htext)
  rw [Text.eq_append_of_dropStart? hhead, Text.eq_append_of_cut? hbody] at hs
  simp only [List.mem_append, List.mem_cons, not_or] at hs
  exact ⟨hs.2.2.2.1.1, hs.2.2.2.2⟩

/-- The characters of the templates of placeholders. -/
def isTemplateChar (c : Char) : Bool := IdOwner.isStartChar c || c == '<' || c == '/' || c == '>'

theorem isStartChar_eq_false (hc : isTemplateChar c = false) : IdOwner.isStartChar c = false := by
  simp only [isTemplateChar, Bool.or_eq_false_iff] at hc
  exact hc.1.1.1

theorem notMem_of_all_isTemplateChar (hc : isTemplateChar c = false) {t : Text} (ht : t.all isTemplateChar = true) :
    c ∉ t := by
  intro h
  rw [List.all_eq_true.mp ht c h] at hc
  cases hc

theorem notMem_kindPlaceholder (hc : isTemplateChar c = false) {k : DiagramKind} (hk : k ∈ DiagramKind.all)
    (id : UInt64) {body : Text} (hbody : c ∉ body) : c ∉ k.placeholder id body := by
  have hstart := isStartChar_eq_false hc
  have hbrackets : c ∉ "<>".toList := notMem_of_all_isTemplateChar hc (by decide)
  have hend : c ∉ "</div>".toList := notMem_of_all_isTemplateChar hc (by decide)
  have hid := IdOwner.notMem_tagStart hstart (.diagram k hk) id
  have hclass := notMem_kindClass hstart hk
  rw [kindPlaceholder_eq hk]
  simp_all

theorem notMem_codePlaceholder (hc : isTemplateChar c = false) (hstyle : c ∉ stylePrefix) (id : UInt64)
    {body : Text} (hbody : c ∉ body) : c ∉ codePlaceholder stylePrefix id body := by
  have hstart := isStartChar_eq_false hc
  have hbrackets : c ∉ "<>".toList := notMem_of_all_isTemplateChar hc (by decide)
  have hfront : c ∉ "<pre>".toList := notMem_of_all_isTemplateChar hc (by decide)
  have hend : c ∉ "</code></pre>".toList := notMem_of_all_isTemplateChar hc (by decide)
  have hid := IdOwner.notMem_tagStart hstart .code id
  have hclass := notMem_codeClass hstart hstyle
  rw [codePlaceholder_eq]
  simp_all

/-- No pass puts in a character but those of the templates and of the style prefix. -/
theorem notMem_extract (hc : isTemplateChar c = false) (hstyle : c ∉ stylePrefix) (ids : IdCounter) {html : Text}
    (hhtml : c ∉ html) : c ∉ (extract stylePrefix ids html).1 := by
  have hkinds : ∀ ks ⊆ DiagramKind.all, ∀ state : Text × IdCounter, c ∉ state.1 →
      c ∉ (ks.foldl (extractKind (stylePrefix ++ "md-code")) state).1 := by
    intro ks hks
    induction ks with
    | nil => exact fun state h => h
    | cons k ks ih =>
      obtain ⟨hk, hrest⟩ := List.cons_subset.mp hks
      intro state hstate
      refine ih hrest _ (Pattern.notMem_renumber _ _ ?_ _ hstate)
      intro s body r hread hs
      obtain ⟨hbody, hr⟩ := notMem_of_readCode? (skipInfo?_of_skipTagged? (tag_isAlpha hk)) hread hs
      exact ⟨hr, fun id => notMem_kindPlaceholder hc hk id hbody⟩
  rw [extract]
  refine Pattern.notMem_renumber _ _ ?_ _ (hkinds _ (List.Subset.refl _) (html, ids) hhtml)
  intro s body r hread hs
  obtain ⟨hbody, hr⟩ := notMem_of_readCode? (fun h => h) hread hs
  exact ⟨hr, fun id => notMem_codePlaceholder hc hstyle id hbody⟩

end Diagram

namespace Rendering

theorem settling_entityFixups : Substitution.Settling entityFixups := by decide

/-- By the passes in their order: what one of them has taken away none behind it brings back. -/
theorem finish_normal {stylePrefix : Text} (hstyle : '\u2026' ∉ stylePrefix) (ids : IdCounter) (html : Text) :
    '\u2026' ∉ (finish stylePrefix ids html).1 ∧
      ∀ r ∈ entityFixups, ¬ r.old <:+: (finish stylePrefix ids html).1 := by
  have hellipsis : '\u2026' ∉ Source.ellipsis.apply html := by
    rw [← List.singleton_infix_iff]
    exact Text.not_infix_replace (by decide) (by decide) html
  have hextract := Diagram.notMem_extract (by decide) hstyle ids hellipsis
  have hnew : ∀ r ∈ entityFixups, '\u2026' ∉ r.new := by decide
  have hfixups := Substitution.notMem_applyAll hnew hextract
  refine ⟨?_, ?_⟩
  · rw [← List.singleton_infix_iff] at hfixups ⊢
    intro h
    exact hfixups (HeadingIds.infix_of_infix_inject (by decide) (by decide) (List.mem_singleton_self _) (by decide) h)
  · intro r hr h
    have hneedles : ∀ r ∈ entityFixups, ('<' ∉ r.old ∧ '>' ∉ r.old) ∧ '"' ∉ r.old ∧ '&' ∈ r.old := by decide
    obtain ⟨hbracket, hquote, hamp⟩ := hneedles r hr
    exact Substitution.not_infix_applyAll settling_entityFixups _ r hr
      (HeadingIds.infix_of_infix_inject hbracket hquote hamp (by decide) h)

end Rendering

namespace Renderer

/-- Whatever was read of a document, the HTML that is returned for it would not be changed by being normalised again. -/
theorem renderEvents_normal {r : Renderer} {clock : Clock} {events : List Markdown.Event} {html : Text}
    (hstyle : r.config.stylePrefix.all Settings.isPrefixChar = true)
    (h : (r.renderEvents clock events).1 = .ok html) :
    '\u2026' ∉ html ∧ ¬ "&mdash;".toList <:+: html ∧ ¬ "&amp;gt;".toList <:+: html ∧
      Source.ellipsis.apply html = html ∧ Substitution.applyAll Rendering.entityFixups html = html := by
  obtain ⟨hellipsis, hfixups⟩ := Rendering.finish_normal (Settings.notMem_stylePrefix hstyle (by decide)) r.counter
    (Html.writeAll (Html.write r.config events))
  rw [← eq_finish_of_renderEvents h] at hellipsis hfixups
  refine ⟨hellipsis, hfixups ⟨"&mdash;", "---"⟩ (by decide), hfixups ⟨"&amp;gt;", "&gt;"⟩ (by decide), ?_, ?_⟩
  · exact Text.replace_of_notMem _ (List.mem_singleton_self _) hellipsis
  · exact Substitution.applyAll_of_not_infix fun q hq => ⟨(Rendering.settling_entityFixups q hq).1, hfixups q hq⟩

/-- A heading and raw HTML in which a replaced dash stands between the parts of an entity. -/
def spellings : List Markdown.Event :=
  [.start (.heading .h2), .text "a\u2026 &gt; b", .stop (.heading .h2),
    .inlineHtml "<h3 title=\"&amp;&mdash;gt; &amp;gt;\">"]

def spellingsHtml : Text :=
  "<h2 id=\"heading_1\" class=\"jsh-md-h2\">a... &gt; b</h2><h3 id=\"heading_2\" title=\"&amp;---gt; &gt;\">"

theorem renderEvents_normal_spellings :
    let r : Renderer := ⟨{ RenderConfig.default with extensions := { Extensions.default with suppressHtml := false } }⟩
    (r.renderEvents (fun _ => 0) spellings).1 = .ok spellingsHtml ∧
      '\u2026' ∉ spellingsHtml ∧ ¬ "&mdash;".toList <:+: spellingsHtml ∧ ¬ "&amp;gt;".toList <:+: spellingsHtml ∧
      Source.ellipsis.apply spellingsHtml = spellingsHtml ∧
      Substitution.applyAll Rendering.entityFixups spellingsHtml = spellingsHtml := by
  intro r
  have hok : (r.renderEvents (fun _ => 0) spellings).1 = .ok spellingsHtml :=
    Except.toOption_eq_some_iff.mp (by decide +kernel)
  exact ⟨hok, renderEvents_normal (by decide) hok⟩

end Renderer
end Markweave
