import Markweave.Markdown.Line
import Markweave.Proofs.Source.Fence
import Markweave.Proofs.Source.Neutral

namespace Markweave.Source

variable {a b s t : Text}

theorem isReference_of_name {name : Text} (h : name ∈ ["amp".toList, "lt".toList, "gt".toList]) :
    IsReference name := by
  simp only [List.mem_cons, List.not_mem_nil, or_false] at h
  rcases h with rfl | rfl | rfl
  · exact ⟨List.all_iff_forall_prop.mp rfl, fun s => rfl⟩
  · exact ⟨List.all_iff_forall_prop.mp rfl, fun s => rfl⟩
  · exact ⟨List.all_iff_forall_prop.mp rfl, fun s => rfl⟩

theorem neutral_escapeLenient (s : Text) : Neutral (Html.escapeLenient s) := by
  induction s with
  | nil => exact .nil
  | cons d s ih =>
    have hescaped : ∀ name ∈ ["amp".toList, "lt".toList, "gt".toList],
        Neutral ('&' :: (name ++ ';' :: Html.escapeLenient s)) :=
      fun _ h => .reference (isReference_of_name h) ih
    by_cases hamp : d = '&'
    · subst hamp
      rw [Html.escapeLenient]
      split
      · next hopens =>
        obtain ⟨name, rest, rfl, hname⟩ := eq_append_of_opensReference hopens
        have hcopied := Html.escapeLenient_append_plain (fun c hc => (hname.plain c hc).1) rest
        rw [List.append_assoc, List.append_assoc] at hcopied
        change Html.escapeLenient (name ++ ';' :: rest) = name ++ ';' :: Html.escapeLenient rest at hcopied
        rw [hcopied] at ih ⊢
        apply Neutral.reference hname
        have hrest : Neutral (name ++ [';'] ++ Html.escapeLenient rest) := by
          rw [List.append_assoc]
          exact ih
        exact hrest.of_append_plain fun c hc => ⟨(hname.plain c hc).1.2.1, (hname.plain c hc).2⟩
      · exact hescaped "amp".toList (by decide)
    by_cases hlt : d = '<'
    · subst hlt
      exact hescaped "lt".toList (by decide)
    by_cases hgt : d = '>'
    · subst hgt
      exact hescaped "gt".toList (by decide)
    rw [Html.escapeLenient_cons_plain ⟨hamp, hlt, hgt⟩]
    exact .char ⟨hamp, hlt, hgt⟩ ih

theorem keepsNeutral_break : KeepsNeutral '&' "lt;br&gt;".toList "<br>".toList where
  plain := rfl
  notMem := by decide
  skip s := by
    change Text.replace _ _ ("lt;br".toList ++ '&' :: ("gt;".toList ++ s)) = _
    rw [Text.replace_append_of_notMem, Text.replace_cons, Text.replace_append_of_notMem]
    all_goals first | decide | rfl
  close := Text.replace_append_of_notMem _ (t := "--->".toList) (by decide)
  head := by decide
  neutral h := .lineBreak (h.of_append_plain (List.all_iff_forall_prop.mp rfl))

theorem keepsNeutral_open : KeepsNeutral '&' "lt;!---".toList "<!---".toList where
  plain := rfl
  notMem := by decide
  skip := Text.replace_append_of_notMem _ (by decide)
  close := Text.replace_append_of_notMem _ (t := "--->".toList) (by decide)
  head := by decide
  neutral h := .opening (.inl rfl) (h.of_append_plain (a := "lt;!".toList) (List.all_iff_forall_prop.mp rfl))

theorem keepsNeutral_close : KeepsNeutral '-' "--&gt;".toList "--->".toList where
  plain := rfl
  notMem := by decide
  skip s := by
    change Text.replace _ _ ('-' :: '-' :: ("&gt;".toList ++ s)) = _
    rw [Text.replace_cons, Text.replace_cons, Text.replace_append_of_notMem]
    all_goals first | decide | rfl
  close s := by
    rw [Text.replace_cons, Text.replace_cons, Text.replace_cons, Text.replace_cons]
    all_goals first | decide | rfl
  head := by decide
  neutral {s} h := by
    change Neutral ('-' :: '-' :: '&' :: ("gt;".toList ++ s)) at h
    have hamp := (h.tail_dash (by simp)).tail_dash (by simp)
    exact .closing (hamp.of_append_plain (a := "&gt;".toList) (List.all_iff_forall_prop.mp rfl))

theorem neutral_allowedMarkup {r : Substitution} (hr : r ∈ allowedMarkup) (h : Neutral s) :
    Neutral (r.apply s) := by
  simp only [allowedMarkup, List.mem_cons, List.not_mem_nil, or_false] at hr
  rcases hr with rfl | rfl | rfl
  · exact h.replace keepsNeutral_break
  · exact h.replace keepsNeutral_open
  · exact h.replace keepsNeutral_close

theorem neutral_applyAll {rs : List Substitution} (hrs : rs ⊆ allowedMarkup) (h : Neutral s) :
    Neutral (Substitution.applyAll rs s) := by
  induction rs generalizing s with
  | nil => exact h
  | cons r rs ih =>
    rw [List.cons_subset] at hrs
    exact ih hrs.2 (neutral_allowedMarkup hrs.1 h)

theorem keepsNeutral_ellipsis : KeepsNeutral '\u2026' [] "...".toList where
  plain := rfl
  notMem := by decide
  skip _ := rfl
  close := Text.replace_append_of_notMem _ (t := "--->".toList) (by decide)
  head := by decide
  neutral h := .append_plain (List.all_iff_forall_prop.mp rfl) h

theorem neutral_ellipsis (h : Neutral s) : Neutral (ellipsis.apply s) := h.replace keepsNeutral_ellipsis

theorem keepsNeutral_returnNewline : KeepsNeutral '\r' "\n".toList "\n".toList where
  plain := rfl
  notMem := by decide
  skip := Text.replace_append_of_notMem _ (by decide)
  close := Text.replace_append_of_notMem _ (t := "--->".toList) (by decide)
  head := by decide
  neutral h := h

theorem keepsNeutral_newlineReturn : KeepsNeutral '\n' "\r".toList "\n".toList where
  plain := rfl
  notMem := by decide
  skip := Text.replace_append_of_notMem _ (by decide)
  close := Text.replace_append_of_notMem _ (t := "--->".toList) (by decide)
  head := by decide
  neutral h := .char (by decide) (h.tail (by decide))

theorem neutral_unifyLineEnds (h : Neutral s) : Neutral (unifyLineEnds s) :=
  (h.replace keepsNeutral_returnNewline).replace keepsNeutral_newlineReturn

theorem Cuts.beforeComment (h : Neutral (a ++ commentOpen ++ b)) : Cuts a (commentOpen ++ b) := by
  rw [List.append_assoc] at h
  exact .before (d := '<') (by decide) h

theorem Cuts.beforeFence (h : Neutral (a ++ fence ++ b)) : Cuts a (fence ++ b) := by
  rw [List.append_assoc] at h
  exact .before (d := '`') (by decide) h

theorem Cuts.beforeLineEnd {returns : Text} (hreturns : ∀ c ∈ returns, c = '\r')
    (h : Neutral (a ++ (returns ++ '\n' :: b))) : Cuts a (returns ++ '\n' :: b) := by
  cases returns with
  | nil => exact .before (d := '\n') (by decide) h
  | cons c returns =>
    obtain rfl := hreturns c List.mem_cons_self
    exact .before (d := '\r') (by decide) h

theorem neutral_closeToken {kind : DirectiveKind} {close : Text} (h : kind.closeToken? = some close)
    (ht : Neutral t) : Neutral (close ++ t) := by
  have hplain : ∀ c ∈ close, c ≠ '&' ∧ c ≠ '<' ∧ c ≠ '>' := by
    cases kind with
    | boxOpen level => cases level <;> (obtain rfl := Option.some.inj h; exact List.all_iff_forall_prop.mp rfl)
    | containerOpen => obtain rfl := Option.some.inj h; exact List.all_iff_forall_prop.mp rfl
    | _ => cases h
  exact .append_plain hplain ht

theorem BlockForm.eq_append_of_read? {inner : Text} {f : BlockForm} (h : read? inner = some f) :
    (∃ returns, (∀ c ∈ returns, c = '\r') ∧ inner = f.header ++ (returns ++ '\n' :: f.body)) ∧
      ∃ kind : DirectiveKind, kind.closeToken? = some f.close := by
  simp only [read?, bind, Option.bind_eq_some_iff, Prod.exists] at h
  obtain ⟨line, body, hcut, d, _, close, hclose, hf⟩ := h
  obtain rfl := Option.some.inj hf
  obtain ⟨returns, hreturns, hline⟩ : ∃ returns, (∀ c ∈ returns, c = '\r') ∧
      line = line.dropEndWhile (· == '\r') ++ returns := by
    refine ⟨(line.reverse.takeWhile (· == '\r')).reverse, ?_, ?_⟩
    · intro c hc
      simpa using List.all_eq_true.mp List.all_takeWhile c (List.mem_reverse.mp hc)
    · rw [Text.dropEndWhile, ← List.reverse_append, List.takeWhile_append_dropWhile, List.reverse_reverse]
  refine ⟨⟨returns, hreturns, ?_⟩, d.kind, hclose⟩
  change inner = line.dropEndWhile (· == '\r') ++ (returns ++ '\n' :: body)
  rw [← List.append_assoc, ← hline, Text.eq_append_of_cut? hcut, List.append_assoc]
  rfl

/-- A body that a close followed keeps its end when the closing directive stands on a line of its own. -/
theorem neutral_body {body : Text} (h : Neutral (body ++ commentClose ++ b)) (ht : Neutral t) :
    Neutral (body ++ (if body = [] || body.getLast? = some '\n' then [] else ['\n']) ++ t) := by
  by_cases hnil : body = []
  · subst hnil
    exact ht
  by_cases hlast : body.getLast? = some '\n'
  · obtain ⟨lines, rfl⟩ := List.getLast?_eq_some_iff.mp hlast
    simp only [List.append_assoc] at h
    have hcut := Cuts.before (d := '\n') (by decide) h
    simpa using hcut.mend ('\n' :: t) (.char (by decide) ht) (.inr (.inl rfl))
  · have hcut := Cuts.beforeClose h
    simpa [hnil, hlast] using hcut.mend ('\n' :: t) (.char (by decide) ht) (.inr (.inl rfl))

theorem neutral_write {f : BlockForm} {returns : Text} (hreturns : ∀ c ∈ returns, c = '\r')
    (h : Neutral ("---".toList ++ f.header ++ (returns ++ '\n' :: (f.body ++ commentClose ++ b))))
    {kind : DirectiveKind} (hclose : kind.closeToken? = some f.close) (ht : Neutral t) :
    Neutral (f.write ++ t) := by
  have hcut := Cuts.beforeLineEnd hreturns h
  have hbody : Neutral (f.body ++ commentClose ++ b) := by
    have hrest := hcut.rest
    rw [← List.singleton_append, ← List.append_assoc] at hrest
    apply hrest.of_append_plain
    simp only [List.mem_append, List.mem_singleton]
    rintro c (hc | rfl)
    · obtain rfl := hreturns c hc
      decide
    · decide
  have hclosing : Neutral (commentOpen ++ f.close ++ commentClose ++ t) := by
    simp only [List.append_assoc]
    refine .opening (.inl rfl) (.append_plain (a := "---".toList) (List.all_iff_forall_prop.mp rfl) ?_)
    exact neutral_closeToken hclose (.closing ht)
  have hrest := neutral_body hbody hclosing
  have hall := hcut.mend _ (.closing (.char (c := '\n') (by decide) hrest)) (.inl rfl)
  have hopen := Neutral.opening (.inl rfl) hall
  simp only [BlockForm.write, List.append_assoc] at hopen ⊢
  exact hopen

/-- What is written for a comment is neutral where the comment is. -/
theorem neutral_writeComment {inner : Text} (h : Neutral (commentOpen ++ (inner ++ commentClose ++ b)))
    (ht : Neutral t) : Neutral (writeComment inner ++ t) := by
  have hdash : Neutral ("---".toList ++ (inner ++ commentClose ++ b)) := h.tail_opening
  unfold writeComment
  split
  · next f hread =>
    obtain ⟨⟨returns, hreturns, rfl⟩, kind, hclose⟩ := BlockForm.eq_append_of_read? hread
    simp only [List.append_assoc, List.cons_append] at hdash
    rw [← List.append_assoc] at hdash
    exact neutral_write hreturns (by rwa [List.append_assoc f.body]) hclose ht
  · have hcut : Cuts ("---".toList ++ inner) (commentClose ++ b) := by
      apply Cuts.beforeClose
      rwa [List.append_assoc, List.append_assoc, ← List.append_assoc inner]
    have hall := Neutral.opening (.inl rfl) (hcut.mend _ (.closing ht) (.inl rfl))
    simp only [List.append_assoc] at hall ⊢
    exact hall

theorem neutral_of_comment {inner : Text} (h : Neutral (commentOpen ++ (inner ++ commentClose ++ b))) :
    Neutral b := by
  have hdash : Neutral ("---".toList ++ (inner ++ commentClose ++ b)) := h.tail_opening
  rw [← List.append_assoc, ← List.append_assoc] at hdash
  exact (Cuts.beforeClose hdash).rest.tail_closing

theorem head?_writeComment (inner s : Text) : (writeComment inner ++ s).head? = some '<' := by
  unfold writeComment
  split <;> rfl

theorem neutral_expandComments (h : Neutral s) : Neutral (expandComments s) := by
  fun_induction expandComments s with
  | case1 s => exact h
  | case2 s before inner after hmark ih =>
    rw [eq_source_of_nextMark? hmark, Mark.source] at h
    have hcut := Cuts.beforeComment h
    have hafter := ih (neutral_of_comment hcut.rest)
    rw [List.append_assoc]
    exact hcut.mend _ (neutral_writeComment hcut.rest hafter) (.inr (.inr (head?_writeComment inner _)))
  | case3 s before code after hmark ih =>
    rw [eq_source_of_nextMark? hmark, Mark.source] at h
    have hcut := Cuts.beforeFence h
    have hafter : Neutral after := hcut.rest.of_append_plain (List.all_iff_forall_prop.mp rfl)
    rw [List.append_assoc _ fence]
    exact hcut.mend _ (.append_plain (List.all_iff_forall_prop.mp rfl) (ih hafter)) (.inr (.inr rfl))

theorem markBlankLines_ne_nil {lines : List Text} (h : lines ≠ []) : markBlankLines lines ≠ [] := by
  match lines with
  | [_] => exact List.cons_ne_nil _ _
  | _ :: _ :: _ => exact List.cons_ne_nil _ _

theorem markBlankLines_cons (line : Text) {more : List Text} (h : more ≠ []) :
    markBlankLines (line :: more) = (if isBlankLine line then blankMark else line) :: markBlankLines more := by
  obtain ⟨next, others, rfl⟩ := List.exists_cons_of_ne_nil h
  rw [markBlankLines]
  exact List.cons_ne_nil _ _

/-- Lines below another can be changed. -/
theorem neutral_joinWith_cons {line : Text} {more more' : List Text} (hmore : more ≠ []) (hmore' : more' ≠ [])
    (h : Neutral (Text.joinWith '\n' (line :: more) ++ t))
    (hnew : Neutral (Text.joinWith '\n' more ++ t) → Neutral (Text.joinWith '\n' more' ++ t)) :
    Neutral (Text.joinWith '\n' (line :: more') ++ t) := by
  rw [Text.joinWith_cons _ hmore, List.append_assoc, List.cons_append] at h
  have hcut := Cuts.before (d := '\n') (by decide) h
  rw [Text.joinWith_cons _ hmore', List.append_assoc, List.cons_append]
  exact hcut.mend _ (.char (by decide) (hnew (hcut.rest.tail (by decide)))) (.inr (.inl rfl))

theorem neutral_markBlankLines (lines : List Text) (h : Neutral (Text.joinWith '\n' lines ++ t)) :
    Neutral (Text.joinWith '\n' (markBlankLines lines) ++ t) := by
  induction lines with
  | nil => exact h
  | cons line more ih =>
    by_cases hmore : more = []
    · subst hmore
      exact h
    rw [markBlankLines_cons line hmore]
    have hmarked := markBlankLines_ne_nil hmore
    split
    · have hblank : Neutral (Text.joinWith '\n' (blankMark :: more) ++ t) := by
        rw [Text.joinWith_cons _ hmore, List.append_assoc, List.cons_append] at h ⊢
        have hcut := Cuts.before (d := '\n') (by decide) h
        exact .char (by decide) hcut.rest
      exact neutral_joinWith_cons hmore hmarked hblank ih
    · exact neutral_joinWith_cons hmore hmarked h ih

theorem unifyLineEnds_append {c : Char} (hc : c ≠ '\r' ∧ c ≠ '\n') (a b : Text) :
    unifyLineEnds (a ++ c :: b) = unifyLineEnds a ++ c :: unifyLineEnds b := by
  have hcr : c ∉ "\r\n".toList := by
    change c ∉ ['\r', '\n']
    simp [hc]
  have hlf : c ∉ "\n\r".toList := by
    change c ∉ ['\n', '\r']
    simp [hc]
  rw [unifyLineEnds, Text.replace_append_wall _ (by decide) hcr, Text.replace_append_wall _ (by decide) hlf]
  rfl

theorem neutral_protectBlankLines {code : Text} (h : Neutral (code ++ ['`'])) :
    Neutral (protectBlankLines code ++ ['`']) := by
  have hunified := neutral_unifyLineEnds h
  have hnil : unifyLineEnds [] = [] := by rw [unifyLineEnds, Text.replace_nil, Text.replace_nil]
  rw [unifyLineEnds_append (by decide), hnil] at hunified
  obtain ⟨first, more, he⟩ := List.exists_cons_of_ne_nil (Text.splitOn_ne_nil '\n' (unifyLineEnds code))
  rw [← Text.joinWith_splitOn '\n' (unifyLineEnds code), he] at hunified
  rw [protectBlankLines, he]
  by_cases hmore : more = []
  · subst hmore
    exact hunified
  · exact neutral_joinWith_cons hmore (markBlankLines_ne_nil hmore) hunified (neutral_markBlankLines more)

theorem neutral_protectFenced (h : Neutral s) : Neutral (protectFenced s) := by
  fun_induction protectFenced s with
  | case1 s => exact h
  | case2 s before code after hcut ih =>
    rw [eq_append_of_cutFenced? hcut, List.append_assoc _ fence after] at h
    have hclose := Cuts.beforeFence (a := before ++ fence ++ code) (b := after) (by rwa [List.append_assoc _ fence])
    have hafter : Neutral after := hclose.rest.of_append_plain (List.all_iff_forall_prop.mp rfl)
    have hcode : Neutral (before ++ fence ++ (code ++ ['`'])) := by
      have hmend := hclose.mend ['`'] (.char (by decide) .nil) (.inr (.inr rfl))
      rwa [List.append_assoc _ code] at hmend
    have hopen := Cuts.beforeFence hcode
    have hprotected := Cuts.before (d := '`') (by decide)
      (neutral_protectBlankLines (hopen.rest.of_append_plain (a := fence) (List.all_iff_forall_prop.mp rfl)))
    have hbody : Neutral (protectBlankLines code ++ (fence ++ protectFenced after)) :=
      hprotected.mend _ (.append_plain (List.all_iff_forall_prop.mp rfl) (ih hafter)) (.inr (.inr rfl))
    have hall := hopen.mend _ (.append_plain (a := fence) (List.all_iff_forall_prop.mp rfl) hbody) (.inr (.inr rfl))
    simp only [List.append_assoc] at hall ⊢
    exact hall

theorem neutral_prepare (s : Text) : Neutral (prepare s) := by
  apply neutral_protectFenced
  apply neutral_expandComments
  apply neutral_ellipsis
  exact neutral_applyAll (List.Subset.refl _) (neutral_escapeLenient s)

namespace Neutral

variable {u v : Text}

theorem behind_lt (h : Neutral (u ++ '<' :: v)) :
    "br>".toList <+: v ∨ "!-".toList <+: v ∨ "!\n".toList <+: v := by
  have hrest := (Cuts.before (by decide) h).rest
  cases hrest with
  | char hc _ => exact absurd rfl hc.2.1
  | lineBreak _ => exact .inl ⟨_, rfl⟩
  | opening hstart _ =>
    right
    rcases hstart with hstart | hstart
    · obtain ⟨r, rfl⟩ := List.head?_eq_some_iff.mp hstart
      exact .inl ⟨r, rfl⟩
    · obtain ⟨r, rfl⟩ := List.head?_eq_some_iff.mp hstart
      exact .inr ⟨r, rfl⟩

theorem behind_amp (h : Neutral (u ++ '&' :: v)) : Html.opensReference v = true := by
  have hrest := (Cuts.intro (by decide) (Text.eq_append_of_append_eq (by decide)) h).rest
  cases hrest with
  | char hc _ => exact absurd rfl hc.1
  | reference hname _ => exact hname.opens _

theorem before_gt (h : Neutral (u ++ '>' :: v)) : "<br".toList <:+ u ∨ "---".toList <:+ u := by
  have happ : ∀ x {u : Text}, "<br".toList <:+ u ∨ "---".toList <:+ u →
      "<br".toList <:+ x ++ u ∨ "---".toList <:+ x ++ u :=
    fun x u h => h.imp (·.trans (List.suffix_append x u)) (·.trans (List.suffix_append x u))
  generalize he : u ++ '>' :: v = t at h
  induction h generalizing u with
  | nil => simp at he
  | @char c s hc hs ih =>
    cases u with
    | nil => exact absurd (List.cons.inj he).1.symm hc.2.2
    | cons d u =>
      obtain ⟨rfl, hs⟩ := List.cons.inj he
      exact happ [d] (ih hs)
  | @reference name s hname _ ih =>
    have hmem : '>' ∉ '&' :: (name ++ [';']) := by
      rw [List.mem_cons, not_or]
      exact ⟨by decide, fun h => (hname.plain _ h).1.2.2 rfl⟩
    have hall : u ++ '>' :: v = '&' :: (name ++ [';']) ++ s := by simpa using he
    obtain ⟨u', rfl, hs⟩ := Text.eq_append_of_append_eq hmem hall
    exact happ _ (ih hs.symm)
  | lineBreak _ ih =>
    obtain ⟨u', rfl, hs⟩ := Text.eq_append_of_append_eq (x := "<br".toList) (by decide) he
    cases u' with
    | nil => exact .inl ⟨[], rfl⟩
    | cons c u' =>
      obtain ⟨rfl, hs'⟩ := List.cons.inj hs
      exact happ _ (happ ['>'] (ih hs'.symm))
  | opening _ _ ih =>
    obtain ⟨u', rfl, hs⟩ := Text.eq_append_of_append_eq (x := "<!".toList) (by decide) he
    exact happ _ (ih hs.symm)
  | closing _ ih =>
    obtain ⟨u', rfl, hs⟩ := Text.eq_append_of_append_eq (x := "---".toList) (by decide) he
    cases u' with
    | nil => exact .inr ⟨[], rfl⟩
    | cons c u' =>
      obtain ⟨rfl, hs'⟩ := List.cons.inj hs
      exact happ _ (happ ['>'] (ih hs'.symm))

end Neutral

def endsTagName (c : Char) : Bool := Markdown.isAsciiBlank c || c == '/' || c == '>'

/-- A complete tag: a name that begins with a letter, behind `<` or `</`, and whatever stands between the end of
the name and the `>` that closes the tag. -/
inductive IsElementTag : Text → Prop
  | intro {slash name attributes : Text} (hslash : slash = [] ∨ slash = ['/'])
      (hletter : ∃ c rest, name = c :: rest ∧ c.isAlpha = true) (hname : ∀ c ∈ name, endsTagName c = false)
      (hattributes : ∀ c ∈ attributes.head?, c ≠ '>' ∧ endsTagName c = true) :
      IsElementTag ('<' :: (slash ++ name ++ attributes ++ ['>']))

theorem IsElementTag.eq_of_neutral {tag u v : Text} (htag : IsElementTag tag) (h : Neutral (u ++ (tag ++ v))) :
    tag = "<br>".toList := by
  obtain @⟨slash, _, attributes, hslash, ⟨c, rest, rfl, hc⟩, hname, hattributes⟩ := htag
  have hlt := Neutral.behind_lt (v := slash ++ c :: rest ++ attributes ++ ['>'] ++ v) h
  rcases hslash with rfl | rfl
  · -- The name begins with a letter, so a line break stands here; it is over where its name is.
    rcases hlt with ⟨w, hw⟩ | ⟨w, hw⟩ | ⟨w, hw⟩
    · change 'b' :: 'r' :: '>' :: w = _ at hw
      simp only [List.cons_append, List.nil_append, List.cons.injEq] at hw
      obtain ⟨rfl, hw⟩ := hw
      match rest, hname with
      | [], _ =>
        cases attributes with
        | nil => simp at hw
        | cons d attributes =>
          simp only [List.cons_append, List.nil_append, List.cons.injEq] at hw
          exact absurd (hattributes d rfl).2 (by rw [← hw.1]; decide)
      | [d], _ =>
        simp only [List.cons_append, List.nil_append, List.cons.injEq] at hw
        obtain ⟨rfl, hw⟩ := hw
        cases attributes with
        | nil => rfl
        | cons d attributes => exact absurd (List.cons.inj hw).1.symm (hattributes d rfl).1
      | d :: e :: rest, hname =>
        simp only [List.cons_append, List.cons.injEq] at hw
        exact absurd (hname e (by simp)) (by rw [← hw.2.1]; decide)
    · obtain rfl := (List.cons.inj hw).1
      exact absurd hc (by decide)
    · obtain rfl := (List.cons.inj hw).1
      exact absurd hc (by decide)
  · rcases hlt with ⟨w, hw⟩ | ⟨w, hw⟩ | ⟨w, hw⟩
    all_goals exact absurd (List.cons.inj hw).1 (by decide)

/-- Whatever an author writes, the prepared text has no live markup but line breaks and directive comments, and no
`&` that does not begin a reference. -/
theorem prepare_neutralizes (s : Text) :
    (∀ u v, prepare s = u ++ '<' :: v →
      "br>".toList <+: v ∨ "!-".toList <+: v ∨ "!\n".toList <+: v) ∧
    (∀ u v, prepare s = u ++ '>' :: v → "<br".toList <:+ u ∨ "---".toList <:+ u) ∧
    (∀ u v, prepare s = u ++ '&' :: v → Html.opensReference v = true) ∧
    ∀ tag, IsElementTag tag → tag <:+: prepare s → tag = "<br>".toList := by
  have h := neutral_prepare s
  refine ⟨?_, ?_, ?_, ?_⟩
  · intro u v he
    exact (he ▸ h).behind_lt
  · intro u v he
    exact (he ▸ h).before_gt
  · intro u v he
    exact (he ▸ h).behind_amp
  · rintro tag htag ⟨u, v, he⟩
    rw [← he, List.append_assoc] at h
    exact htag.eq_of_neutral h

end Markweave.Source
