import Markweave.Proofs.Html.Decode
import Markweave.Proofs.Markdown.CodeSpan
import Markweave.Proofs.Rendering.FencedCode

namespace Markweave

namespace Rendering

variable {s t : Text}

/-- A `<` that begins something authors may write. -/
def opensMarkup (s : Text) : Bool := Text.startsWith "br>" s || Text.startsWith "!---" s

/-- Inline code as it is seen: any other `<` shows as the reference that was written for it. -/
def seen : Text → Text
  | [] => []
  | c :: s => (if c = '<' && !opensMarkup s then "&lt;" else [c] : Text) ++ seen s

def allowBreaks (s : Text) : Text := Text.replace "&lt;br&gt;" "<br>" s

def allowOpenings (s : Text) : Text := Text.replace "&lt;!---" "<!---" s

def allowCloses (s : Text) : Text := Text.replace "---&gt;" "--->" s

/-- The text of inline code that the parser is given. -/
def allowed (t : Text) : Text := allowCloses (allowOpenings (allowBreaks (Html.escapeLenient t)))

/-- Closing brackets as they are seen. -/
def showCloses (s : Text) : Text := Text.replace "&gt;" ">" s

theorem showCloses_cons {c : Char} (hc : c ≠ '&') (s : Text) : showCloses (c :: s) = c :: showCloses s :=
  Text.replace_cons _ (by decide) (Text.dropStart?_of_head_ne (Ne.symm hc))

theorem showCloses_gt (s : Text) : showCloses ("&gt;" ++ s) = '>' :: showCloses s :=
  Text.replace_of_dropStart? _ (by decide) (Text.dropStart?_append "&gt;" s)

theorem showCloses_lt (s : Text) : showCloses ("&lt;" ++ s) = "&lt;" ++ showCloses s :=
  Text.replace_cons_append _ (t := "lt;".toList) (by decide) rfl

theorem showCloses_amp {s : Text} (h : Text.dropStart? "gt;" s = none) : showCloses ('&' :: s) = '&' :: showCloses s :=
  Text.replace_cons _ (by decide) h

theorem showCloses_append {x : Text} (hx : '&' ∉ x) (s : Text) : showCloses (x ++ s) = x ++ showCloses s := by
  induction x with
  | nil => rfl
  | cons c x ih =>
    simp only [List.mem_cons, not_or] at hx
    rw [List.cons_append, showCloses_cons (Ne.symm hx.1), ih hx.2, List.cons_append]

/-- The close of a comment is a bracket as any other when brackets are put right. -/
theorem showCloses_allowCloses (s : Text) : showCloses (allowCloses s) = showCloses s := by
  have hold : "---&gt;".toList ≠ [] := by decide
  induction s using Text.replace_induction "---&gt;" hold with
  | nil => exact congrArg showCloses (Text.replace_nil _ _)
  | found s ih =>
    have hclose : allowCloses ("---&gt;".toList ++ s) = "--->".toList ++ allowCloses s :=
      Text.replace_of_dropStart? _ hold (Text.dropStart?_append _ s)
    have hdashes : showCloses ("---&gt;".toList ++ s) = "---".toList ++ showCloses ("&gt;".toList ++ s) :=
      showCloses_append (x := "---".toList) (by decide) _
    rw [hclose, showCloses_append (by decide), ih, hdashes, showCloses_gt]
    rfl
  | skip c s h ih =>
    have hcons : allowCloses (c :: s) = c :: allowCloses s := Text.replace_cons _ hold h
    rw [hcons]
    by_cases hc : c = '&'
    · subst hc
      cases hd : Text.dropStart? "gt;" s with
      | some r =>
        obtain rfl := Text.eq_append_of_dropStart? hd
        have hrest : allowCloses ("gt;".toList ++ r) = "gt;".toList ++ allowCloses r :=
          Text.replace_append_of_notMem _ (by decide) r
        rw [hrest, showCloses_append (by decide), showCloses_append (by decide)] at ih
        rw [hrest]
        have hleft : showCloses ('&' :: ("gt;".toList ++ allowCloses r)) = _ := showCloses_gt (allowCloses r)
        have hright : showCloses ('&' :: ("gt;".toList ++ r)) = _ := showCloses_gt r
        rw [hleft, hright, List.append_cancel_left ih]
      | none =>
        have hnone : Text.dropStart? "gt;" (allowCloses s) = none := by
          cases hallowed : Text.dropStart? "gt;" (allowCloses s) with
          | none => rfl
          | some r =>
            obtain ⟨r', rfl⟩ := Text.eq_append_of_replace (d := '-') hold (show '-' ∉ "gt;".toList by decide)
              (Text.eq_append_of_dropStart? hallowed)
            exact absurd (hd.symm.trans (Text.dropStart?_append "gt;" r')) (by simp)
        rw [showCloses_amp hnone, showCloses_amp hd, ih]
    · rw [showCloses_cons hc, showCloses_cons hc, ih]

theorem seen_append {x : Text} (hx : '<' ∉ x) (s : Text) : seen (x ++ s) = x ++ seen s := by
  induction x with
  | nil => rfl
  | cons c x ih =>
    simp only [List.mem_cons, not_or] at hx
    rw [List.cons_append, seen, if_neg (by simp [Ne.symm hx.1]), ih hx.2]
    rfl

theorem seen_of_notMem (h : '<' ∉ t) : seen t = t := by
  have happ := seen_append h []
  rwa [List.append_nil, seen, List.append_nil] at happ

theorem length_le_length_seen (t : Text) : t.length ≤ (seen t).length := by
  induction t with
  | nil => exact Nat.le_refl _
  | cons c t ih =>
    have hlead : 1 ≤ (if c = '<' && !opensMarkup t then "&lt;".toList else [c]).length := by
      split
      all_goals exact Nat.succ_le_succ (Nat.zero_le _)
    rw [seen, List.length_append, List.length_cons]
    omega

/-- All is seen as it was written where each `<` begins something that authors may write. -/
theorem seen_eq_self_iff (t : Text) : seen t = t ↔ t.AtTags (opensMarkup · = true) := by
  induction t using Text.tags_induction with
  | plain a ha => exact iff_of_true (seen_of_notMem ha) (.of_notMem ha)
  | tag a b ha ih =>
    rw [Text.AtTags.append_cons_iff ha, ← ih, seen_append ha, List.append_cancel_left_eq, seen]
    cases hb : opensMarkup b with
    | true => simp
    | false =>
      refine iff_of_false ?_ fun h => Bool.false_ne_true h.1
      intro h
      -- The reference is longer than the bracket.
      have hlength := congrArg List.length h
      have hle := length_le_length_seen b
      simp at hlength
      omega

theorem dropStart?_escapeLenient {x s : Text} (hx : '&' ∉ x) (h : Text.dropStart? x s = none) :
    Text.dropStart? x (Html.escapeLenient s) = none := by
  cases hd : Text.dropStart? x (Html.escapeLenient s) with
  | none => rfl
  | some r =>
    obtain ⟨r', rfl, _⟩ := Html.eq_append_of_escapeLenient hx (Text.eq_append_of_dropStart? hd)
    exact absurd (h.symm.trans (Text.dropStart?_append x r')) (by simp)

/-- Of a bracket that begins no line break, the escaped text begins none either. -/
theorem dropStart?_break {s : Text} (hs : '&' ∉ s) (h : Text.dropStart? "br>" s = none) :
    Text.dropStart? "br&gt;" (Html.escapeLenient s) = none := by
  cases hd : Text.dropStart? "br&gt;" (Html.escapeLenient s) with
  | none => rfl
  | some r =>
    have hsplit := Text.eq_append_of_dropStart? hd
    change Html.escapeLenient s = "br".toList ++ ("&gt;".toList ++ r) at hsplit
    obtain ⟨r', rfl, hr⟩ := Html.eq_append_of_escapeLenient (by decide) hsplit
    cases r' with
    | nil => cases hr
    | cons c r' =>
      by_cases hgt : c = '>'
      · subst hgt
        exact absurd (h.symm.trans (Text.dropStart?_append "br>" r')) (by simp)
      by_cases hlt : c = '<'
      · subst hlt
        exact absurd (List.cons.inj (List.cons.inj hr).2).1 (by decide)
      have hamp : c ≠ '&' := by
        rintro rfl
        exact hs (by simp)
      rw [Html.escapeLenient] at hr
      · exact absurd (List.cons.inj hr).1 hamp
      all_goals assumption

/-- Both kinds of openings. -/
def allowMarkup (s : Text) : Text := allowOpenings (allowBreaks s)

theorem allowMarkup_append {x : Text} (hx : '&' ∉ x) (s : Text) : allowMarkup (x ++ s) = x ++ allowMarkup s := by
  have hbreaks : allowBreaks (x ++ s) = x ++ allowBreaks s := Text.replace_append_of_notMem _ hx s
  rw [allowMarkup, hbreaks]
  exact Text.replace_append_of_notMem _ hx _

theorem allowMarkup_gt (s : Text) : allowMarkup ("&gt;" ++ s) = "&gt;" ++ allowMarkup s := by
  have hbreaks : allowBreaks ("&gt;" ++ s) = "&gt;" ++ allowBreaks s :=
    Text.replace_cons_append _ (t := "gt;".toList) (by decide) rfl
  rw [allowMarkup, hbreaks]
  exact Text.replace_cons_append _ (t := "gt;".toList) (by decide) rfl

theorem allowMarkup_break (s : Text) : allowMarkup ("&lt;br&gt;" ++ s) = "<br>" ++ allowMarkup s := by
  have hbreaks : allowBreaks ("&lt;br&gt;" ++ s) = "<br>" ++ allowBreaks s :=
    Text.replace_of_dropStart? _ (by decide) (Text.dropStart?_append "&lt;br&gt;" s)
  rw [allowMarkup, hbreaks]
  exact Text.replace_append_of_notMem _ (by decide) _

theorem allowMarkup_opening (s : Text) : allowMarkup ("&lt;!---" ++ s) = "<!---" ++ allowMarkup s := by
  have hbreaks : allowBreaks ("&lt;!---" ++ s) = "&lt;!---" ++ allowBreaks s :=
    Text.replace_cons_append _ (t := "lt;!---".toList) (by decide) rfl
  rw [allowMarkup, hbreaks]
  exact Text.replace_of_dropStart? _ (by decide) (Text.dropStart?_append "&lt;!---" _)

theorem allowMarkup_lt {s : Text} (hbreak : Text.dropStart? "br&gt;" s = none)
    (hopen : Text.dropStart? "!---" s = none) : allowMarkup ("&lt;" ++ s) = "&lt;" ++ allowMarkup s := by
  have hbreaks : allowBreaks ("&lt;" ++ s) = "&lt;" ++ allowBreaks s :=
    Text.replace_cons_append _ (t := "lt;".toList) (by decide) hbreak
  have hopening : Text.dropStart? "!---" (allowBreaks s) = none := by
    cases hd : Text.dropStart? "!---" (allowBreaks s) with
    | none => rfl
    | some r =>
      obtain ⟨r', rfl⟩ := Text.eq_append_of_replace (d := '<') (by decide) (show '<' ∉ "!---".toList by decide)
        (Text.eq_append_of_dropStart? hd)
      exact absurd (hopen.symm.trans (Text.dropStart?_append "!---" r')) (by simp)
  rw [allowMarkup, hbreaks]
  exact Text.replace_cons_append _ (t := "lt;".toList) (by decide) hopening

/-- A `<` that begins nothing that is allowed stays escaped. -/
theorem showCloses_allowMarkup_lt {s : Text} (hs : '&' ∉ s) (hbreak : Text.dropStart? "br>" s = none)
    (hopen : Text.dropStart? "!---" s = none) (ih : showCloses (allowMarkup (Html.escapeLenient s)) = seen s) :
    showCloses (allowMarkup (Html.escapeLenient ('<' :: s))) = seen ('<' :: s) := by
  have hescaped : Html.escapeLenient ('<' :: s) = "&lt;" ++ Html.escapeLenient s := rfl
  have hmarkup : opensMarkup s = false := by
    rw [opensMarkup, Text.startsWith, Text.startsWith, hbreak, hopen]
    rfl
  have hseen : seen ('<' :: s) = "&lt;" ++ seen s := by rw [seen, if_pos (by simp [hmarkup])]
  rw [hescaped, allowMarkup_lt (dropStart?_break hs hbreak) (dropStart?_escapeLenient (by decide) hopen),
    showCloses_lt, ih, hseen]

/-- What is allowed shows as it was written; of anything else the `<` does not. -/
theorem showCloses_allowMarkup {t : Text} (ht : '&' ∉ t) :
    showCloses (allowMarkup (Html.escapeLenient t)) = seen t := by
  match t with
  | [] =>
    have hnil : allowMarkup [] = [] := by
      rw [allowMarkup, allowBreaks, Text.replace_nil, allowOpenings, Text.replace_nil]
    exact (congrArg showCloses hnil).trans (Text.replace_nil _ _)
  | c :: s =>
    have hs : '&' ∉ s := fun h => ht (List.mem_cons_of_mem c h)
    by_cases hgt : c = '>'
    · subst hgt
      have hescaped : Html.escapeLenient ('>' :: s) = "&gt;" ++ Html.escapeLenient s := rfl
      rw [hescaped, allowMarkup_gt, showCloses_gt, showCloses_allowMarkup hs]
      exact (seen_append (x := ['>']) (by decide) s).symm
    by_cases hlt : c = '<'
    · subst hlt
      cases hbreak : Text.dropStart? "br>" s with
      | some r =>
        have he := Text.eq_append_of_dropStart? hbreak
        have hr : '&' ∉ r := fun h => hs (by simp [he, h])
        have hescaped : Html.escapeLenient ('<' :: ("br>".toList ++ r)) = "&lt;br&gt;" ++ Html.escapeLenient r := rfl
        have hseen : seen ('<' :: ("br>".toList ++ r)) = '<' :: seen ("br>".toList ++ r) := rfl
        rw [he, hescaped, allowMarkup_break, showCloses_append (by decide), showCloses_allowMarkup hr, hseen,
          seen_append (by decide)]
        rfl
      | none =>
        cases hopen : Text.dropStart? "!---" s with
        | some r =>
          have he := Text.eq_append_of_dropStart? hopen
          have hr : '&' ∉ r := fun h => hs (by simp [he, h])
          have hescaped : Html.escapeLenient ('<' :: ("!---".toList ++ r)) = "&lt;!---" ++ Html.escapeLenient r := rfl
          have hseen : seen ('<' :: ("!---".toList ++ r)) = '<' :: seen ("!---".toList ++ r) := rfl
          rw [he, hescaped, allowMarkup_opening, showCloses_append (by decide), showCloses_allowMarkup hr, hseen,
            seen_append (by decide)]
          rfl
        | none => exact showCloses_allowMarkup_lt hs hbreak hopen (showCloses_allowMarkup hs)
    · have hamp : '&' ∉ [c] := fun h => ht (by simp_all)
      have hescaped : Html.escapeLenient ([c] ++ s) = [c] ++ Html.escapeLenient s :=
        Html.escapeLenient_append_plain (by simp_all [eq_comm]) s
      have hseen := seen_append (x := [c]) (by simp_all [eq_comm]) s
      rw [← List.singleton_append, hescaped, allowMarkup_append hamp, showCloses_append hamp,
        showCloses_allowMarkup hs, hseen]
termination_by t.length
decreasing_by
  all_goals
    first
    | exact Nat.lt_succ_self _
    | have hlength := congrArg List.length he
      simp only [List.length_append, List.length_cons] at hlength ⊢
      omega

theorem showCloses_allowed (ht : '&' ∉ t) : showCloses (allowed t) = seen t := by
  rw [allowed, showCloses_allowCloses]
  exact showCloses_allowMarkup ht

/-- A line between two backticks. -/
def codeSpan (t : Text) : Text := '`' :: (t ++ ['`'])

theorem allowed_eq (t : Text) : allowed t = Substitution.applyAll Source.allowedMarkup (Html.escapeLenient t) := rfl

theorem notMem_allowed {c : Char} (hc : c ∉ "&amp;ltg<br>!-".toList) (ht : c ∉ t) : c ∉ allowed t := by
  rw [allowed_eq]
  apply Substitution.notMem_applyAll
  · have hnew : ∀ r ∈ Source.allowedMarkup, r.new ⊆ "&amp;ltg<br>!-".toList := by decide
    exact fun r hr h => hc (hnew r hr h)
  · intro h
    rcases Html.mem_escapeLenient h with ⟨h, _⟩ | h
    · exact ht h
    · exact hc ((by decide : "&amp;ltg".toList ⊆ "&amp;ltg<br>!-".toList) h)

theorem allowed_ne_nil (hamp : '&' ∉ t) (hne : t ≠ []) : allowed t ≠ [] := by
  intro hnil
  have hseen := showCloses_allowed hamp
  rw [hnil] at hseen
  have hlength := length_le_length_seen t
  rw [← hseen, showCloses, Text.replace_nil, List.length_nil] at hlength
  exact hne (List.length_eq_zero_iff.mp (Nat.le_zero.mp hlength))

/-- No stage puts a space first. -/
theorem head_allowed (h : t.head? ≠ some ' ') : (allowed t).head? ≠ some ' ' := by
  intro hhead
  obtain ⟨r, hr⟩ := List.head?_eq_some_iff.mp hhead
  have hspace : ∀ {old new : Text} {d : Char} {ds s r : Text}, new = d :: ds → d ≠ ' ' → old ≠ [] →
      Text.replace old new s = ' ' :: r → ∃ r', s = ' ' :: r' := by
    rintro old new d ds s r rfl hd hold h
    exact Text.eq_append_of_replace (t := [' ']) hold (by simpa using hd) h
  obtain ⟨r, hr⟩ := hspace rfl (by decide) (by decide) hr
  obtain ⟨r, hr⟩ := hspace rfl (by decide) (by decide) hr
  obtain ⟨r, hr⟩ := hspace rfl (by decide) (by decide) hr
  obtain ⟨r, rfl, _⟩ := Html.eq_append_of_escapeLenient (x := [' ']) (by decide) hr
  exact h rfl

theorem prepare_codeSpan (hamp : '&' ∉ t) (hbacktick : '`' ∉ t) (hellipsis : '\u2026' ∉ t) (hnewline : '\n' ∉ t) :
    Source.prepare (codeSpan t) = codeSpan (allowed t) := by
  have hescaped : Html.escapeLenient (codeSpan t) = codeSpan (Html.escapeLenient t) :=
    congrArg ('`' :: ·) (Html.escapeLenient_append hamp ['`'])
  have hmarkup : Substitution.applyAll Source.allowedMarkup (codeSpan (Html.escapeLenient t)) =
      codeSpan (allowed t) := by
    have hsplits : Text.Splits '`' (Substitution.applyAll Source.allowedMarkup) :=
      Substitution.splits_applyAll (by decide)
    have hnil : Substitution.applyAll Source.allowedMarkup [] = [] :=
      Substitution.applyAll_of_notMem (c := ';') (by decide) List.not_mem_nil
    have hopen := hsplits [] (Html.escapeLenient t ++ ['`'])
    have hclose := hsplits (Html.escapeLenient t) []
    rw [hnil] at hopen hclose
    rw [allowed_eq, codeSpan, codeSpan, ← hclose]
    exact hopen
  have hline : ∀ {c : Char}, c ∉ "&amp;ltg<br>!-".toList → c ≠ '`' → c ∉ t → c ∉ codeSpan (allowed t) := by
    intro c hc hmark ht
    simp only [codeSpan, List.mem_cons, List.mem_append, List.not_mem_nil, or_false, not_or]
    exact ⟨hmark, notMem_allowed hc ht, hmark⟩
  have hdots : Source.ellipsis.apply (codeSpan (allowed t)) = codeSpan (allowed t) :=
    Text.replace_of_notMem (c := '\u2026') _ (by decide) (hline (by decide) (by decide) hellipsis)
  have hcount : (codeSpan (allowed t)).count '`' < 6 := by
    simp [codeSpan, List.count_eq_zero.mpr (notMem_allowed (by decide) hbacktick)]
  rw [Source.prepare, hescaped, hmarkup, hdots,
    Source.expandComments_of_line (hline (by decide) (by decide) hnewline), Source.protectFenced_of_count hcount]

theorem run_codeSpan {w : Html.Writer} (h : w.image.active = false) (s : Text) :
    (w.run [.start .paragraph, .code s, .stop .paragraph]).2 =
      [w.openTag "p", w.openTag "code", .verbatim (Html.escape s), .closing "code", .closing "p"] := by
  simp [Html.Writer.run, Html.Writer.step, Html.Writer.start, Html.Writer.stop, Html.Writer.inlineCode, h]

theorem writeAll_codeSpan (s : Text) :
    Html.writeAll (Html.write .default [.start .paragraph, .code s, .stop .paragraph]) =
      "<p class=\"jsh-md-p\"><code class=\"jsh-md-code\">" ++ (Html.escape s ++ "</code></p>") := by
  have hopen : ((Html.Writer.ofConfig .default).openTag "p").write ++
      ((Html.Writer.ofConfig .default).openTag "code").write =
        "<p class=\"jsh-md-p\"><code class=\"jsh-md-code\">".toList := by decide +kernel
  rw [Html.write, run_codeSpan rfl, ← hopen]
  simp [Html.writeAll, Html.Markup.write]

/-- Of calm text without ellipses only spellings are put right. -/
theorem finish_of_calm {stylePrefix html : Text} (hstyle : '<' ∉ stylePrefix)
    (hcalm : Html.Calm (stylePrefix ++ "md-code") html) (hellipsis : '\u2026' ∉ html) (n : UInt64) :
    (finish stylePrefix ⟨n⟩ html).1 = respell html := by
  let only : Interleaved Diagram.Item := ⟨html, []⟩
  have hgaps : ∀ g ∈ only.gaps, Diagram.HoldsCodeInline (stylePrefix ++ "md-code") g := by
    intro g hg
    obtain rfl : g = html := by simpa [only, Interleaved.gaps] using hg
    exact hcalm.holdsCodeInline
  have hextract := Diagram.extract_items (l := only) (n := n) hstyle hgaps fun i hi => absurd hi List.not_mem_nil
  have hwrite : ∀ f : Diagram.Item → Text, only.write f = html := by
    intro f
    simp [only, Interleaved.write, Interleaved.writeRest]
  have hindexed : ∀ f : Diagram.Item × Nat → Text, only.indexed.write f = html := by
    intro f
    simp [only, Interleaved.indexed, Interleaved.write, Interleaved.writeRest]
  rw [hwrite, hindexed] at hextract
  have hdots : Source.ellipsis.apply html = html :=
    Text.replace_of_notMem (c := '\u2026') _ (by decide) hellipsis
  have hquiet : (respell html).AtTags (Html.startsNoHeading · = true) :=
    hcalm.headings.apply (respell_splits (by decide)) (fun _ => lt_notMem_respell) fun _ => startsNoHeading_respell
  rw [finish, hdots, numberElements, hextract]
  exact inject_of_quiet hquiet _

theorem respell_append {x : Text} (hx : '&' ∉ x) (s : Text) : respell (x ++ s) = x ++ respell s := by
  induction x with
  | nil => rfl
  | cons c x ih =>
    simp only [List.mem_cons, not_or] at hx
    rw [List.cons_append, respell_cons (Ne.symm hx.1), ih hx.2, List.cons_append]

theorem finish_codeSpan (hellipsis : '\u2026' ∉ s) (hnewline : '\n' ∉ s) :
    (finish "jsh-" .first ("<p class=\"jsh-md-p\"><code class=\"jsh-md-code\">" ++ (Html.escape s ++ "</code></p>"))).1 =
      "<p class=\"jsh-md-p\"><code class=\"jsh-md-code\">" ++ (respell (Html.escape s) ++ "</code></p>") := by
  have hcode : Html.Calm ("jsh-" ++ "md-code")
      ('<' :: ("code" ++ (" class=\"jsh-md-code\">" ++ Html.escape s)) ++ "</code>") := by
    apply Html.Calm.inlineCode (by decide)
    · simp [Html.lt_notMem_escape]
    · simp [Html.newline_notMem_escape hnewline]
  have hopen : Html.Calm ("jsh-" ++ "md-code") ('<' :: "p class=\"jsh-md-p\">".toList) :=
    .tag (by decide) (by decide) (by decide)
  have hclose : Html.Calm ("jsh-" ++ "md-code") ('<' :: "/p>".toList) := .tag (by decide) (by decide) (by decide)
  have hcalm : Html.Calm ("jsh-" ++ "md-code")
      ("<p class=\"jsh-md-p\"><code class=\"jsh-md-code\">" ++ (Html.escape s ++ "</code></p>")) := by
    have happ := (hopen.append hcode).append hclose
    simpa using happ
  have hdots : '\u2026' ∉ Html.escape s := fun hc => (Html.mem_escape hc).elim hellipsis (absurd · (by decide))
  rw [IdCounter.first, finish_of_calm (by decide) hcalm (by simp [hdots]), respell_append (by decide)]
  have hrest := respell_splits (c := '<') (by decide) (Html.escape s) "/code></p>"
  rw [respell_of_notMem (s := "/code></p>") (by decide)] at hrest
  exact congrArg (_ ++ ·) hrest

end Rendering

namespace Renderer

open Rendering Html

/-- Inline code is seen as it was written but for each `<` that begins neither a line break nor the opening of a
comment: it shows as the reference `&lt;`. -/
theorem render_codeSpan {t : Text} {clock : Clock} (hne : t ≠ []) (hspace : t.head? ≠ some ' ')
    (ht : ∀ c ∈ t, c ≠ '`' ∧ c ≠ '&' ∧ c ≠ '\u2026' ∧ Markdown.isLineEnd c = false)
    (hclock : ∀ i, clock i ≤ RenderConfig.default.timeLimit * 1000000) :
    ∃ content, (render ⟨.default⟩ clock (codeSpan t)).1 =
        .ok ("<p class=\"jsh-md-p\"><code class=\"jsh-md-code\">" ++ (content ++ "</code></p>")) ∧
      '<' ∉ content ∧ decode content = seen t ∧
      (decode content = t ↔ t.AtTags (opensMarkup · = true)) := by
  have hbacktick : '`' ∉ t := fun h => (ht _ h).1 rfl
  have hamp : '&' ∉ t := fun h => (ht _ h).2.1 rfl
  have hellipsis : '\u2026' ∉ t := fun h => (ht _ h).2.2.1 rfl
  have hnewline : '\n' ∉ t := fun h => absurd (ht _ h).2.2.2 (by decide)
  have hreturn : '\r' ∉ t := fun h => absurd (ht _ h).2.2.2 (by decide)
  have hdecode : decode (respell (escape (allowed t))) = seen t := by
    rw [decode_respell_escape]
    exact showCloses_allowed hamp
  have hevents : Rendering.events .default (codeSpan t) = [.start .paragraph, .code (allowed t), .stop .paragraph] := by
    rw [Rendering.events, prepare_codeSpan hamp hbacktick hellipsis hnewline]
    apply Markdown.events_codeSpan
    · exact allowed_ne_nil hamp hne
    · exact head_allowed hspace
    · exact notMem_allowed (by decide) hbacktick
    · intro c hc
      by_contra hend
      rw [Bool.not_eq_false, Markdown.isLineEnd, Bool.or_eq_true, beq_iff_eq, beq_iff_eq] at hend
      rcases hend with rfl | rfl
      · exact notMem_allowed (by decide) hnewline hc
      · exact notMem_allowed (by decide) hreturn hc
  have hrender := render_eq_ok (r := ⟨.default⟩) hclock (codeSpan t)
  dsimp only at hrender
  rw [hevents, writeAll_codeSpan] at hrender
  have hfinish := finish_codeSpan (notMem_allowed (by decide) hellipsis) (notMem_allowed (by decide) hnewline)
  refine ⟨respell (escape (allowed t)), hrender.trans (congrArg Except.ok hfinish), ?_, hdecode, ?_⟩
  · exact lt_notMem_respell (lt_notMem_escape _)
  · rw [hdecode]
    exact seen_eq_self_iff t

theorem render_codeSpan_line_break :
    ∃ content, (render ⟨.default⟩ (fun _ => 0) (codeSpan "a > b<br>c")).1 =
        .ok ("<p class=\"jsh-md-p\"><code class=\"jsh-md-code\">" ++ (content ++ "</code></p>")) ∧
      '<' ∉ content ∧ decode content = "a > b<br>c".toList := by
  have hclock : ∀ i, (fun _ => 0 : Clock) i ≤ RenderConfig.default.timeLimit * 1000000 := fun _ => Nat.zero_le _
  obtain ⟨content, hrender, hlt, hdecode, _⟩ := render_codeSpan (t := "a > b<br>c") (by decide) (by decide)
    (List.all_iff_forall_prop.mp rfl) hclock
  exact ⟨content, hrender, hlt, hdecode.trans (by decide)⟩

/-- Any other `<` is escaped twice, and only the `>` is put right afterwards. -/
theorem not_forall_render_codeSpan : ¬ ∀ (t : Text) (clock : Clock), t ≠ [] → t.head? ≠ some ' ' →
    t.getLast? ≠ some ' ' → (∀ c ∈ t, c ≠ '`' ∧ c ≠ '&' ∧ c ≠ '\u2026' ∧ 32 ≤ c.toNat ∧ c.toNat ≠ 127) →
    (∀ i, clock i ≤ RenderConfig.default.timeLimit * 1000000) →
    ∃ content, (render ⟨.default⟩ clock (codeSpan t)).1 =
        .ok ("<p class=\"jsh-md-p\"><code class=\"jsh-md-code\">" ++ (content ++ "</code></p>")) ∧
      '<' ∉ content ∧ decode content = t := by
  intro hall
  obtain ⟨content, hrender, _, hdecode⟩ := hall "<" (fun _ => 0) (by decide) (by decide) (by decide)
    (List.all_iff_forall_prop.mp rfl) fun _ => Nat.zero_le _
  have hok : (render ⟨.default⟩ (fun _ => 0) (codeSpan "<")).1 =
      .ok ("<p class=\"jsh-md-p\"><code class=\"jsh-md-code\">".toList ++ ("&amp;lt;".toList ++ "</code></p>".toList)) :=
    Except.toOption_eq_some_iff.mp (by decide +kernel)
  have hsame := List.append_cancel_left (Except.ok.inj (hok.symm.trans hrender))
  obtain rfl := List.append_cancel_right hsame
  exact absurd hdecode (by decide +kernel)

end Renderer
end Markweave
