import Markweave.HeadingIds
import Markweave.Proofs.Diagram.SinglePass
import Markweave.Proofs.Html.Vocabulary

namespace Markweave.Html

open Diagram (openingTag)
open HeadingIds (isHeadingDigit)

/-- What follows a `<` begins a tag that is no heading, also when its references are put right. -/
def startsNoHeading : Text → Bool
  | 'h' :: d :: _ => d != '&' && !isHeadingDigit d
  | c :: _ => c != '&' && c != 'h'
  | [] => false

theorem startsNoHeading_append {v : Text} (h : startsNoHeading v = true) (s : Text) :
    startsNoHeading (v ++ s) = true := by
  unfold startsNoHeading at h
  split at h
  · exact h
  · next c r hr =>
    simp only [Bool.and_eq_true, bne_iff_ne, ne_eq] at h
    rw [List.cons_append]
    unfold startsNoHeading
    split
    · next he => exact absurd (List.cons.inj he).1 h.2
    · next he =>
      obtain ⟨rfl, _⟩ := List.cons.inj he
      simp [h]
    · next he => cases he
  · exact absurd h Bool.false_ne_true

/-- Code that opens behind a `<` stays on its line and the next tag follows. -/
def OpensInline (marker v : Text) : Prop :=
  (∀ s, Text.dropStart? (openingTag marker) ('<' :: (v ++ s)) = none) ∨
    ∃ line rest, '<' :: v = openingTag marker ++ (line ++ '<' :: rest) ∧ '\n' ∉ line

theorem OpensInline.append {marker v : Text} (h : OpensInline marker v) (s : Text) :
    OpensInline marker (v ++ s) := by
  rcases h with h | ⟨line, rest, he, hline⟩
  · left
    intro r
    rw [List.append_assoc]
    exact h (s ++ r)
  · right
    refine ⟨line, rest ++ s, ?_, hline⟩
    rw [← List.cons_append, he]
    simp

theorem notMem_writeAttributes {q : Char} (hname : q.isAlphanum = false) (hq : q ∉ " =\"".toList)
    {as : List Attribute} (h : ∀ a ∈ as, a.Over (· ≠ q)) : q ∉ writeAttributes as := by
  intro hc
  obtain ⟨a, ha, hc⟩ := List.mem_flatMap.mp hc
  have hname : q ∉ a.name := (h a ha).notMem_name hname
  have hvalue := (h a ha).2
  have hsub : ∀ {t : Text}, t ⊆ " =\"".toList → q ∉ t := fun ht hc => hq (ht hc)
  unfold Attribute.write at hc
  split at hc
  · rcases List.mem_append.mp hc with hc | hc
    · exact hsub (by decide) hc
    · exact hname hc
  · next v hv =>
    simp only [List.mem_append] at hc
    rcases hc with (((hc | hc) | hc) | hc) | hc
    · exact hsub (by decide) hc
    · exact hname hc
    · exact hsub (by decide) hc
    · exact hvalue v hv _ hc rfl
    · exact hsub (by decide) hc

theorem lt_notMem_writeAttributes {as : List Attribute} (h : ∀ a ∈ as, a.Over (· ≠ '<')) :
    '<' ∉ writeAttributes as := notMem_writeAttributes (by decide) (by decide) h

/-- Nothing is a heading tag, and no code reaches over the end of a line. -/
structure Calm (marker t : Text) : Prop where
  headings : t.AtTags (startsNoHeading · = true)
  code : t.AtTags (OpensInline marker)

namespace Calm

variable {marker : Text}

theorem of_notMem {t : Text} (h : '<' ∉ t) : Calm marker t := ⟨.of_notMem h, .of_notMem h⟩

theorem append {a b : Text} (ha : Calm marker a) (hb : Calm marker b) : Calm marker (a ++ b) :=
  ⟨.append (fun _ s h => startsNoHeading_append h s) ha.headings hb.headings,
    .append (fun _ s h => h.append s) ha.code hb.code⟩

/-- A tag whose name begins with another letter than `c`. -/
theorem tag {t : Text} (ht : '<' ∉ t) (hstart : startsNoHeading t = true) (hc : t.head? ≠ some 'c') :
    Calm marker ('<' :: t) := by
  refine ⟨.tag ht hstart, .tag ht (.inl ?_)⟩
  intro s
  cases t with
  | nil => exact absurd hstart Bool.false_ne_true
  | cons d t =>
    have hd : 'c' ≠ d := by
      rintro rfl
      exact hc rfl
    have hopen : openingTag marker = '<' :: 'c' :: ("ode class=\"" ++ marker ++ "\">") := rfl
    rw [hopen, Text.dropStart?, if_pos rfl]
    exact Text.dropStart?_of_head_ne hd

/-- Code on one line. Whether its class is the marker or not, a tag follows before the line ends. -/
theorem inlineCode (hm : '<' ∉ marker) {t : Text} (ht : '<' ∉ t) (hline : '\n' ∉ t) :
    Calm marker ('<' :: ("code" ++ t) ++ "</code>") := by
  have hname : '<' ∉ "code" ++ t := by
    intro h
    rcases List.mem_append.mp h with h | h
    · exact absurd h (by decide)
    · exact ht h
  have htags : ∀ P : Text → Prop, P ("code" ++ t ++ "</code>") → P "/code>" →
      Text.AtTags P ('<' :: ("code" ++ t) ++ "</code>") := by
    intro P hopen hclose
    have hnil : '<' ∉ ([] : Text) := List.not_mem_nil
    have hrest : Text.AtTags P "/code>" := .of_notMem (by decide)
    exact (Text.AtTags.append_cons_iff hnil).mpr
      ⟨hopen, (Text.AtTags.append_cons_iff hname).mpr ⟨hclose, hrest⟩⟩
  refine ⟨htags _ rfl rfl, htags _ ?_ (.inl fun s => rfl)⟩
  have htail := Diagram.notMem_tail_openingTag hm
  cases hd : Text.dropStart? ("code class=\"" ++ marker ++ "\">") ("code" ++ t) with
  | none =>
    left
    intro s
    have hwall := Text.dropStart?_append_wall htail ("code" ++ t) ("/code>" ++ s)
    rw [hd] at hwall
    rw [List.append_assoc ("code".toList ++ t)]
    exact hwall
  | some line =>
    have he := Text.eq_append_of_dropStart? hd
    right
    refine ⟨line, "/code>", ?_, ?_⟩
    · rw [he, Diagram.openingTag_eq]
      simp only [List.cons_append, List.append_assoc]
      rfl
    · intro h
      have hcode : '\n' ∈ "code" ++ t := by
        rw [he]
        exact List.mem_append_right _ h
      rcases List.mem_append.mp hcode with h | h
      · exact absurd h (by decide)
      · exact hline h

/-- Markup without headings and code. -/
theorem of_uses {m : Markup} (h : m.Uses plainNames (· ≠ '<')) : Calm marker m.write := by
  have hplain : ∀ n ∈ plainNames, '<' ∉ n ∧ startsNoHeading n = true ∧ n.head? ≠ some 'c' ∧ n ≠ [] := by
    decide
  have htags : ∀ n ∈ tagNames, '<' ∉ n := by decide
  have hattributes : ∀ {as : List Attribute}, (∀ a ∈ as, a.Over (· ≠ '<')) → '<' ∉ writeAttributes as :=
    lt_notMem_writeAttributes
  have hopening : ∀ {n as}, n ∈ plainNames → (∀ a ∈ as, Attribute.Over (· ≠ '<') a) → ∀ e : Text, '<' ∉ e →
      Calm marker ("<" ++ n ++ writeAttributes as ++ e) := by
    intro n as hn has e he
    obtain ⟨hlt, hstart, hhead, hnil⟩ := hplain n hn
    have ht : '<' ∉ n ++ writeAttributes as ++ e := by
      simp [hlt, hattributes has, he]
    refine tag (t := n ++ writeAttributes as ++ e) ht ?_ ?_
    · rw [List.append_assoc]
      exact startsNoHeading_append hstart _
    · obtain ⟨c, r, rfl⟩ := List.exists_cons_of_ne_nil hnil
      exact hhead
  cases m with
  | verbatim t => exact of_notMem h
  | opening n as => exact hopening h.1 h.2 ">" (by decide)
  | standalone n as => exact hopening h.1 h.2 " />" (by decide)
  | closing n =>
    have ht : '<' ∉ "/" ++ n ++ ">" := by
      have hn := htags n h
      simp [hn]
    exact tag (t := "/" ++ n ++ ">") ht rfl (by simp)

theorem writeAll {ms : List Markup} (h : AllUse plainNames (· ≠ '<') ms) : Calm marker (writeAll ms) := by
  induction h with
  | nil => exact of_notMem List.not_mem_nil
  | cons hm _ ih => exact (of_uses hm).append ih
  | @raw t n ms ht hn _ ih =>
    have hlt : (Markup.verbatim t).Uses plainNames (· ≠ '<') := fun hc => ht '<' hc rfl
    have hclose : (Markup.closing n).Uses plainNames (· ≠ '<') := hn
    exact (of_uses hlt).append ((of_uses hclose).append ih)

theorem holdsCodeInline {t : Text} (h : Calm marker t) : Diagram.HoldsCodeInline marker t := by
  intro before after he
  have htag : t = before ++ '<' :: ("code class=\"" ++ marker ++ "\">" ++ after) := by
    rw [he, Diagram.openingTag_eq, List.append_assoc]
    rfl
  rcases h.code _ _ htag with hnone | ⟨line, rest, hline, hnl⟩
  · have hd := hnone []
    rw [List.append_nil] at hd
    have hsome := Text.dropStart?_append (openingTag marker) after
    rw [Diagram.openingTag_eq, List.cons_append] at hsome
    rw [Diagram.openingTag_eq, hsome] at hd
    cases hd
  · rw [← List.cons_append, ← Diagram.openingTag_eq, List.append_cancel_left_eq] at hline
    rw [hline]
    intro hmem
    have hline' : (line ++ '<' :: rest).takeWhile (· ≠ '<') <+: line := by
      rw [List.takeWhile_append]
      split
      · simp
      · exact List.takeWhile_prefix _
    exact hnl (hline'.subset hmem)

end Calm
end Markweave.Html
