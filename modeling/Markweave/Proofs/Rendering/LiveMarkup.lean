import Markweave.Proofs.Except
import Markweave.Proofs.Diagram.SinglePass
import Markweave.Proofs.Html.Elements
import Markweave.Proofs.Html.TagsOnly
import Markweave.Proofs.HeadingTag
import Markweave.Proofs.Rendering.IdOwner
import Markweave.Proofs.Settings
import Markweave.Proofs.Substitution
import Markweave.Rendering

namespace Markweave

open Html (Bars OpensTag TagsOnly TagStart)

namespace Substitution

variable {r : Substitution} {o d : Char} {os ds : Text}

theorem opensTag_apply (hold : r.old = o :: os) (hnew : r.new = d :: ds) (ho : Bars o) (hd : Bars d)
    (v : Text) : OpensTag (r.apply v) ↔ OpensTag v := by
  rw [apply, hold, hnew]
  constructor
  · rintro ⟨t, rest, ht, he⟩
    obtain ⟨rest', rfl⟩ := Text.eq_append_of_replace (List.cons_ne_nil o os) (ht.notMem hd) he
    exact ⟨t, rest', ht, rfl⟩
  · rintro ⟨t, rest, ht, rfl⟩
    exact ⟨t, _, ht, Text.replace_append_of_notMem (d :: ds) (ht.notMem ho) rest⟩

theorem tagsOnly_apply (hold : r.old = o :: os) (hnew : r.new = d :: ds) (ho : Bars o) (hd : Bars d)
    (hlt : '<' ∉ r.old ∧ '<' ∉ r.new) (s : Text) : TagsOnly (r.apply s) ↔ TagsOnly s := by
  have hsplits : Text.Splits '<' r.apply := splits_apply (by simp [hold]) hlt.1
  induction s using Text.tags_induction with
  | plain a ha => exact iff_of_true (.of_notMem (notMem_apply hlt.2 ha)) (.of_notMem ha)
  | tag a b ha ih =>
    have ih : TagsOnly (r.apply b) ↔ TagsOnly b := ih
    rw [hsplits, Html.tagsOnly_append_plain (notMem_apply hlt.2 ha), Html.tagsOnly_append_plain ha,
      Html.tagsOnly_cons_tag, Html.tagsOnly_cons_tag, ih, opensTag_apply hold hnew ho hd]

end Substitution

namespace Pattern

variable {α : Type} {p : Pattern α} {write : UInt64 → α → Text}

/-- The pattern finds tags and writes tags. -/
structure OnTags (p : Pattern α) (write : UInt64 → α → Text) : Prop where
  read : p.FindsTags
  write : ∀ id a, (write id a).head? = some '<'

theorem OnTags.head_renumber (h : OnTags p write) (ids : IdCounter) (b : Text) :
    ∃ x, (p.renumber write ids ('<' :: b)).1 = '<' :: x := by
  cases hr : p.read? ('<' :: b) with
  | none =>
    rw [p.renumber_cons write ids hr]
    exact ⟨_, rfl⟩
  | some find =>
    rw [p.renumber_of_read? write ids hr]
    obtain ⟨t, ht⟩ := List.head?_eq_some_iff.mp (h.write ids.next find.1)
    rw [ht]
    exact ⟨_, rfl⟩

/-- Before the first tag of a text nothing changes. -/
theorem OnTags.opensTag_renumber (h : OnTags p write) (ids : IdCounter) (s : Text) :
    OpensTag (p.renumber write ids s).1 ↔ OpensTag s := by
  by_cases hs : '<' ∈ s
  · obtain ⟨a, b, rfl, ha⟩ := List.eq_append_cons_of_mem hs
    obtain ⟨x, hx⟩ := h.head_renumber ids b
    rw [p.renumber_quiet write (h.read.quiet ha), hx, Html.opensTag_append_bar (by decide),
      Html.opensTag_append_bar (by decide)]
  · have hq := p.renumber_quiet write (h.read.quiet hs) ids []
    rw [List.append_nil, p.renumber_nil, List.append_nil] at hq
    rw [hq]

/-- A pass keeps the tags of a text when it keeps those of each find. -/
theorem OnTags.tagsOnly_renumber (h : OnTags p write)
    (hfind : ∀ {s a r}, p.read? s = some (a, r) → ∀ id r', (TagsOnly r' ↔ TagsOnly r) →
      (TagsOnly (write id a ++ r') ↔ TagsOnly s)) (ids : IdCounter) (s : Text) :
    TagsOnly (p.renumber write ids s).1 ↔ TagsOnly s := by
  induction s using p.induction generalizing ids with
  | nil => rw [p.renumber_nil]
  | found s a r hr ih =>
    rw [p.renumber_of_read? write ids hr]
    exact hfind hr _ _ (ih _)
  | skip c s hr ih =>
    rw [p.renumber_cons write ids hr]
    by_cases hc : c = '<'
    · subst hc
      rw [Html.tagsOnly_cons_tag, Html.tagsOnly_cons_tag, ih, h.opensTag_renumber]
    · have hplain : ∀ t, TagsOnly (c :: t) ↔ TagsOnly t :=
        Html.tagsOnly_append_plain (a := [c]) (by simp [Ne.symm hc])
      rw [hplain, hplain, ih]

end Pattern

namespace IdOwner

theorem isAlphanum_element (o : IdOwner) : o.element.all Char.isAlphanum = true := by
  cases o with
  | diagram kind hk => exact (by decide : "div".toList.all Char.isAlphanum = true)
  | code => decide
  | heading digit hd => simp [element, Char.isAlphanum, HeadingIds.isDigit_of_isHeadingDigit hd]

/-- The tag of an owner is of the vocabulary when its element is. -/
theorem opensTag_tagStart (o : IdOwner) (n : UInt64) (s : Text) :
    OpensTag (o.tagStart n ++ s) ↔ o.element ∈ Html.tagNames := by
  have hne : o.element ≠ [] := by cases o <;> exact List.cons_ne_nil _ _
  have hsplit : o.tagStart n ++ s = o.element ++ ' ' :: ("id=\"" ++ (o.id n ++ ("\"" ++ s))) := by
    rw [tagStart]
    simp only [List.append_assoc]
    rfl
  rw [hsplit]
  exact Html.opensTag_name_iff o.isAlphanum_element hne (by decide) _

end IdOwner

namespace Diagram

/-- An element whose opening tag is one of the vocabulary has the tags of what it holds. -/
theorem tagsOnly_element {a : Text} (ha : '<' ∉ a) (hopens : OpensTag a) {n : Text}
    (hn : n ∈ Html.tagNames) (body r : Text) :
    TagsOnly ('<' :: (a ++ (body ++ '<' :: '/' :: (n ++ '>' :: r)))) ↔ TagsOnly body ∧ TagsOnly r := by
  obtain ⟨hclose, hrest⟩ := Html.tagsOnly_closing hn r
  rw [Html.tagsOnly_cons_tag, Html.tagsOnly_append_plain ha, Html.tagsOnly_append_tag, hrest]
  simp [hopens.append, hclose]

theorem eq_append_of_skipInfo? {s r : Text} (h : skipInfo? s = some r) :
    ∃ info, '<' ∉ info ∧ s = info ++ '\n' :: r := by
  refine ⟨s.takeWhile fun c => c != '\n' && c != '<', ?_, ?_⟩
  · intro hc
    have hlt := List.all_eq_true.mp (List.all_takeWhile (l := s)) '<' hc
    simp at hlt
  · unfold skipInfo? at h
    split at h
    · next rest hd =>
      obtain rfl := Option.some.inj h
      rw [← hd, List.takeWhile_append_dropWhile]
    · cases h

variable {marker : Text} {skip? : Text → Option Text} {s body r : Text}

/-- What a pass over code finds: an opening tag, a line, the body, and a closing tag. -/
theorem tagsOnly_readCode? (hm : '<' ∉ marker) (hskip : ∀ {s r}, skip? s = some r → skipInfo? s = some r)
    (h : readCode? marker skip? s = some (body, r)) : TagsOnly s ↔ TagsOnly body ∧ TagsOnly r := by
  simp only [readCode?, readBody?, Option.bind_eq_some_iff, Option.filter_eq_some_iff] at h
  obtain ⟨head, hhead, text, htext, hbody, _⟩ := h
  obtain ⟨info, hinfo, rfl⟩ := eq_append_of_skipInfo? (hskip htext)
  have hcode : "code".toList ∈ Html.tagNames := by decide
  have hopens : OpensTag ("code class=\"" ++ marker ++ "\">" ++ info ++ ['\n']) := by
    have hname := (Html.opensTag_name_iff (m := "code") (c := ' ') (by decide) (by decide) (by decide)
      ("class=\"" ++ marker ++ "\">" ++ info ++ ['\n'])).mpr hcode
    exact hname
  have hlt : '<' ∉ "code class=\"" ++ marker ++ "\">" ++ info ++ ['\n'] := by simp [hm, hinfo]
  have hs : s = '<' :: ("code class=\"" ++ marker ++ "\">" ++ info ++ ['\n'] ++
      (body ++ '<' :: '/' :: ("code" ++ '>' :: r))) := by
    rw [Text.eq_append_of_dropStart? hhead, Text.eq_append_of_cut? hbody, openingTag_eq]
    simp only [List.append_assoc, List.cons_append, List.nil_append]
    rfl
  rw [hs]
  exact tagsOnly_element hlt hopens hcode body r

theorem tagsOnly_kindPlaceholder {k : DiagramKind} (hk : k ∈ DiagramKind.all) (id : UInt64) (body r : Text) :
    TagsOnly (k.placeholder id body ++ r) ↔ TagsOnly body ∧ TagsOnly r := by
  have hdiv : "div".toList ∈ Html.tagNames := by decide
  have hstart : '<' ∉ (IdOwner.diagram k hk).tagStart id := IdOwner.notMem_tagStart (by decide) _ id
  have hclass : '<' ∉ kindClass k := notMem_kindClass (by decide) hk
  have hsplit : ∀ a : Text, '<' :: (a ++ '>' :: (body ++ "</div>")) ++ r =
      '<' :: (a ++ ['>'] ++ (body ++ '<' :: '/' :: ("div".toList ++ '>' :: r))) := by
    intro a
    simp only [List.append_assoc, List.cons_append]
    rfl
  have hopens : OpensTag ((IdOwner.diagram k hk).tagStart id ++ kindClass k ++ ['>']) := by
    rw [List.append_assoc]
    exact (IdOwner.opensTag_tagStart _ id _).mpr hdiv
  rw [kindPlaceholder_eq hk, hsplit]
  exact tagsOnly_element (by simp [hstart, hclass]) hopens hdiv body r

theorem tagsOnly_codePlaceholder {stylePrefix : Text} (hstyle : '<' ∉ stylePrefix) (id : UInt64)
    (body r : Text) : TagsOnly (codePlaceholder stylePrefix id body ++ r) ↔ TagsOnly body ∧ TagsOnly r := by
  have hcode : "code".toList ∈ Html.tagNames := by decide
  have hpre : "pre".toList ∈ Html.tagNames := by decide
  have hstart : '<' ∉ IdOwner.code.tagStart id := IdOwner.notMem_tagStart (by decide) _ id
  have hclass : '<' ∉ codeClass stylePrefix := notMem_codeClass (by decide) hstyle
  have hsplit : ∀ a : Text, "<pre>" ++ '<' :: (a ++ '>' :: (body ++ "</code></pre>")) ++ r =
      '<' :: ("pre>" ++ '<' :: (a ++ ['>'] ++ (body ++ '<' :: '/' :: ("code".toList ++ '>' ::
        '<' :: '/' :: ("pre".toList ++ '>' :: r))))) := by
    intro a
    simp only [List.append_assoc, List.cons_append]
    rfl
  have hopens : OpensTag (IdOwner.code.tagStart id ++ codeClass stylePrefix ++ ['>']) := by
    rw [List.append_assoc]
    exact (IdOwner.opensTag_tagStart _ id _).mpr hcode
  have hpreOpens : ∀ x, OpensTag ("pre>" ++ x) := fun x =>
    (Html.opensTag_name_iff (m := "pre") (c := '>') (by decide) (by decide) (by decide) x).mpr hpre
  obtain ⟨hclose, hrest⟩ := Html.tagsOnly_closing hpre r
  rw [codePlaceholder_eq, hsplit, Html.tagsOnly_cons_tag, Html.tagsOnly_append_plain (by decide),
    tagsOnly_element (by simp [hstart, hclass]) hopens hcode, Html.tagsOnly_cons_tag, hrest,
    and_iff_right (hpreOpens _), and_iff_right hclose]

theorem tagsOnly_extractKind (hm : '<' ∉ marker) {k : DiagramKind} (hk : k ∈ DiagramKind.all)
    (state : Text × IdCounter) : TagsOnly (extractKind marker state k).1 ↔ TagsOnly state.1 := by
  have htags : Pattern.OnTags (tagged marker k) k.placeholder := ⟨fun _ _ _ => head?_of_readCode?, fun _ _ => rfl⟩
  apply htags.tagsOnly_renumber
  intro s body r hread id r' hr
  rw [tagsOnly_kindPlaceholder hk, hr]
  exact (tagsOnly_readCode? hm (skipInfo?_of_skipTagged? (tag_isAlpha hk)) hread).symm

theorem tagsOnly_foldl_extractKind (hm : '<' ∉ marker) {ks : List DiagramKind} (hks : ks ⊆ DiagramKind.all)
    (state : Text × IdCounter) :
    TagsOnly (ks.foldl (extractKind marker) state).1 ↔ TagsOnly state.1 := by
  induction ks generalizing state with
  | nil => rfl
  | cons k ks ih =>
    obtain ⟨hk, hrest⟩ := List.cons_subset.mp hks
    rw [List.foldl_cons, ih hrest, tagsOnly_extractKind hm hk]

theorem tagsOnly_extract {stylePrefix : Text} (hstyle : '<' ∉ stylePrefix) (ids : IdCounter) (html : Text) :
    TagsOnly (extract stylePrefix ids html).1 ↔ TagsOnly html := by
  have hm := notMem_marker hstyle
  have htags : Pattern.OnTags (untagged (stylePrefix ++ "md-code")) (codePlaceholder stylePrefix) :=
    ⟨fun _ _ _ => head?_of_readCode?, fun _ _ => rfl⟩
  rw [extract]
  dsimp only
  rw [htags.tagsOnly_renumber, tagsOnly_foldl_extractKind hm fun _ h => h]
  intro s body r hread id r' hr
  rw [tagsOnly_codePlaceholder hstyle, hr]
  exact (tagsOnly_readCode? hm (fun h => h) hread).symm

end Diagram

namespace HeadingIds

/-- Behind its name a heading tag closes or has a blank. -/
theorem exists_cons_of_readTag? {s r : Text} {t : HeadingTag} (h : readTag? s = some (t, r)) :
    isHeadingDigit t.digit = true ∧ s = '<' :: 'h' :: t.digit :: (t.attributes ++ '>' :: r) ∧
      ∃ c x, Html.endsName c = true ∧ t.attributes ++ '>' :: r = c :: x := by
  obtain ⟨hproper, rfl⟩ := readTag?_eq_some_iff.mp h
  refine ⟨isHeadingDigit_iff.mpr hproper.digit, by simp [HeadingTag.spell], ?_⟩
  cases has : t.attributes with
  | nil => exact ⟨'>', r, by decide, rfl⟩
  | cons c as => exact ⟨c, as ++ '>' :: r, by simp [Html.endsName, hproper.blank c (by simp [has])], rfl⟩

theorem tagsOnly_inject (ids : IdCounter) (html : Text) : TagsOnly (inject ids html).1 ↔ TagsOnly html := by
  have htags : Pattern.OnTags tag writeTag := ⟨findsTags_tag, fun _ _ => rfl⟩
  apply htags.tagsOnly_renumber
  intro s t r hread id r' hr
  obtain ⟨digit, attributes⟩ := t
  obtain ⟨hdigit, rfl, c, x, hc, hx⟩ := exists_cons_of_readTag? hread
  have hname := (IdOwner.heading digit hdigit).isAlphanum_element
  have hlt : '<' ∉ ['h', digit] := fun h => absurd (List.all_eq_true.mp hname '<' h) (by decide)
  have hstart : '<' ∉ (IdOwner.heading digit hdigit).tagStart id := IdOwner.notMem_tagStart (by decide) _ id
  have hafter : writeTag id ⟨digit, attributes⟩ ++ r' =
      '<' :: ((IdOwner.heading digit hdigit).tagStart id ++ (attributes ++ '>' :: r')) := by
    rw [writeTag_eq hdigit]
    simp
  have hbefore : OpensTag (['h', digit] ++ (attributes ++ '>' :: r)) ↔ ['h', digit] ∈ Html.tagNames := by
    rw [hx]
    exact Html.opensTag_name_iff hname (List.cons_ne_nil _ _) hc x
  have hsame : '<' :: 'h' :: digit :: (attributes ++ '>' :: r) =
      '<' :: (['h', digit] ++ (attributes ++ '>' :: r)) := rfl
  rw [hafter, hsame, Html.tagsOnly_cons_tag, Html.tagsOnly_cons_tag, Html.tagsOnly_append_plain hstart,
    Html.tagsOnly_append_plain hlt, Html.tagsOnly_append_bracket _ r', Html.tagsOnly_append_bracket _ r,
    hr, hbefore, IdOwner.opensTag_tagStart]
  rfl

end HeadingIds

namespace Rendering

open Html (writeAll)

theorem tagsOnly_entityFixups (s : Text) : TagsOnly (Substitution.applyAll entityFixups s) ↔ TagsOnly s := by
  have hdash : ∀ s, TagsOnly (Substitution.apply ⟨"&mdash;", "---"⟩ s) ↔ TagsOnly s :=
    Substitution.tagsOnly_apply (o := '&') (d := '-') rfl rfl (by decide) (by decide) (by decide)
  have hgt : ∀ s, TagsOnly (Substitution.apply ⟨"&amp;gt;", "&gt;"⟩ s) ↔ TagsOnly s :=
    Substitution.tagsOnly_apply (o := '&') (d := '&') rfl rfl (by decide) (by decide) (by decide)
  rw [Substitution.applyAll, entityFixups, List.foldl_cons, List.foldl_cons, List.foldl_nil, hgt, hdash]

/-- Everything that happens to written HTML keeps its tags. -/
theorem tagsOnly_finish {stylePrefix : Text} (hstyle : '<' ∉ stylePrefix) (ids : IdCounter) (html : Text) :
    TagsOnly (finish stylePrefix ids html).1 ↔ TagsOnly html := by
  have hellipsis : ∀ s, TagsOnly (Source.ellipsis.apply s) ↔ TagsOnly s :=
    Substitution.tagsOnly_apply (o := '\u2026') (d := '.') rfl rfl (by decide) (by decide) (by decide)
  rw [finish, numberElements]
  dsimp only
  rw [HeadingIds.tagsOnly_inject, tagsOnly_entityFixups, Diagram.tagsOnly_extract hstyle, hellipsis]

end Rendering

namespace Renderer

open Html (Writer)

variable {r : Renderer} {clock : Clock} {document html : Text}

theorem eq_finish_of_renderEvents {events : List Markdown.Event} (h : (r.renderEvents clock events).1 = .ok html) :
    html = (Rendering.finish r.config.stylePrefix r.counter (Html.writeAll (Html.write r.config events))).1 := by
  rw [renderEvents] at h
  cases hlate : Rendering.overrun? r.config.nanoseconds clock events.length with
  | some elapsed =>
    rw [Rendering.ofEvents_late hlate] at h
    cases h
  | none =>
    rw [Rendering.ofEvents_inTime hlate] at h
    exact (Except.ok.inj h).symm

theorem eq_finish_of_render (h : (r.render clock document).1 = .ok html) :
    html = (Rendering.finish r.config.stylePrefix r.counter
      (Html.writeAll (Html.write r.config (Rendering.events r.config document)))).1 :=
  eq_finish_of_renderEvents h

/-- What an author writes is live in rendered HTML only through the parameters of directives: they are
written as they stand, and every tag that is not of the vocabulary is one of theirs. -/
theorem tagsOnly_render (hsuppress : r.config.extensions.suppressHtml = true)
    (hstyle : r.config.stylePrefix.all Settings.isPrefixChar = true)
    (happ : Settings.isDottedIdentifier r.config.app = true) (h : (r.render clock document).1 = .ok html) :
    (TagsOnly html ↔
      ∀ m ∈ Html.write r.config (Rendering.events r.config document), ∀ t ∈ m.texts, TagsOnly t) ∧
    ((∀ raw ∈ (Writer.ofConfig r.config).comments (Rendering.events r.config document), ∀ d,
      Directive.recognize? raw = some d → '<' ∉ d.param) → TagsOnly html) := by
  have hlt : '<' ∉ r.config.stylePrefix := Diagram.notMem_of_isPrefixChar hstyle
  have hfresh : (Writer.ofConfig r.config).Fresh r.config := ⟨rfl, rfl, hsuppress⟩
  have hiff : TagsOnly html ↔
      ∀ m ∈ Html.write r.config (Rendering.events r.config document), ∀ t ∈ m.texts, TagsOnly t := by
    have hanything : ∀ t, Text.Over (fun _ => True) t := fun _ _ _ => trivial
    have huses : Html.AllUse Html.tagNames (fun _ => True)
        (Html.write r.config (Rendering.events r.config document)) :=
      Html.run_uses (fun _ _ => trivial) (hfresh.over (fun _ _ => trivial) (hanything _))
        fun raw _ => Directive.CommentOver.uses (fun _ _ => trivial)
          fun d _ => ⟨hanything d.param, hanything r.config.app⟩
    rw [eq_finish_of_render h, Rendering.tagsOnly_finish hlt, Html.tagsOnly_writeAll huses]
  refine ⟨hiff, ?_⟩
  intro hparams
  have hne : ∀ {t : Text}, '<' ∉ t → Text.Over (· ≠ '<') t := Text.Over.of_notMem fun _ hc => hc
  have hvalue : ∀ c, Html.isValueChar c = true → c ≠ '<' := fun _ hc => (Html.ne_of_isValueChar hc).1
  have happ : '<' ∉ r.config.app := Settings.notMem_app happ (by decide) (by decide)
  have huses : Html.AllUse Html.tagNames (· ≠ '<')
      (Html.write r.config (Rendering.events r.config document)) :=
    Html.run_uses hvalue (hfresh.over hvalue (hne hlt)) fun raw hraw => Directive.CommentOver.uses (fun _ hc => hc)
      fun d hd => ⟨hne (hparams raw hraw d hd), hne happ⟩
  exact hiff.mpr fun m hm t ht => .of_notMem (Html.notMem_texts huses m hm t ht)

/-- Author tags around a box. -/
def boxBetweenTags : Text := "# a <b>\n\n\\<!---BOX.INFO note---> <i>x</i>\n"

def boxBetweenTagsHtml : Text :=
  "<h1 id=\"heading_1\" class=\"jsh-md-h1\">a &lt;b&gt;</h1><p class=\"jsh-md-p\">" ++
    "<div class=\"jsh-md-infobox\"><div class=\"jsh-md-infobox-ue\">note</div>" ++
    "<div class=\"jsh-md-infobox-container\"> &lt;i&gt;x&lt;/i&gt;</p>"

theorem tagsOnly_render_box_between_tags :
    (render ⟨.default⟩ (fun _ => 0) boxBetweenTags).1 = .ok boxBetweenTagsHtml ∧
      TagsOnly boxBetweenTagsHtml := by
  have hok : (render ⟨.default⟩ (fun _ => 0) boxBetweenTags).1 = .ok boxBetweenTagsHtml :=
    Except.toOption_eq_some_iff.mp (by decide +kernel)
  have hcomments : (Writer.ofConfig .default).comments (Rendering.events .default boxBetweenTags) =
      ["BOX.INFO note".toList] := by decide +kernel
  refine ⟨hok, (tagsOnly_render rfl (by decide) (by decide) hok).2 ?_⟩
  intro raw hraw d hd
  rw [hcomments, List.mem_singleton] at hraw
  subst hraw
  have hread : Directive.recognize? "BOX.INFO note".toList = some ⟨.boxOpen .info, "note".toList⟩ := by
    decide +kernel
  rw [hread] at hd
  obtain rfl := Option.some.inj hd
  decide

/-- A box whose label spells a tag with character references. -/
def boxWithTag : Text := "\\<!---BOX.INFO &lt;u&gt;--->"

def boxWithTagHtml : Text :=
  "<p class=\"jsh-md-p\"><div class=\"jsh-md-infobox\"><div class=\"jsh-md-infobox-ue\"><u></div>" ++
    "<div class=\"jsh-md-infobox-container\"></p>"

/-- A label is live where its tag is not of the vocabulary. -/
theorem not_forall_tagsOnly_render : ¬ ∀ (r : Renderer) (clock : Clock) (document html : Text),
    r.config.extensions.suppressHtml = true → r.config.stylePrefix.all Settings.isPrefixChar = true →
    Settings.isDottedIdentifier r.config.app = true → (r.render clock document).1 = .ok html → TagsOnly html := by
  intro hall
  have hok : (render ⟨.default⟩ (fun _ => 0) boxWithTag).1 = .ok boxWithTagHtml :=
    Except.toOption_eq_some_iff.mp (by decide +kernel)
  have hlive : TagsOnly boxWithTagHtml :=
    hall ⟨.default⟩ (fun _ => 0) boxWithTag boxWithTagHtml rfl (by decide) (by decide) hok
  have hsplit : boxWithTagHtml =
      "<p class=\"jsh-md-p\"><div class=\"jsh-md-infobox\"><div class=\"jsh-md-infobox-ue\">".toList ++
        '<' :: ("u".toList ++ '>' :: "</div><div class=\"jsh-md-infobox-container\"></p>".toList) := by
    decide +kernel
  rw [hsplit, Html.tagsOnly_append_tag, Html.opensTag_name_iff (by decide) (by decide) (by decide)] at hlive
  exact absurd hlive.2.1 (by decide)

end Renderer
end Markweave
