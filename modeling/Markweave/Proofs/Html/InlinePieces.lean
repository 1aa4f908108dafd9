import Markweave.Proofs.Html.Decode
import Markweave.Proofs.Text.Pieces

namespace Markweave.Html

variable {s r raw : Text}

namespace InlineToken

/-- A directive is written in one way, a line break with any blanks behind its name and perhaps a slash. -/
inductive Spells : InlineToken → Text → Prop
  | directive (raw : Text) : Spells (directive raw) ("<!---" ++ raw ++ "--->")
  | lineBreak {blanks slash : Text} (hblanks : ∀ c ∈ blanks, Unicode.isBlank c = true)
      (hslash : slash = [] ∨ slash = ['/']) : Spells lineBreak ("<br" ++ (blanks ++ (slash ++ ">")))

theorem readDirective?_eq_some_iff :
    readDirective? s = some (raw, r) ↔ s = "<!---" ++ raw ++ "--->" ++ r ∧ ¬ "--->".toList <:+: raw := by
  rw [readDirective?, Option.bind_eq_some_iff]
  constructor
  · rintro ⟨t, ht, hcut⟩
    refine ⟨?_, Text.not_infix_of_cut? (by decide) hcut⟩
    rw [Text.eq_append_of_dropStart? ht, Text.eq_append_of_cut? hcut]
    simp only [List.append_assoc]
  · rintro ⟨rfl, hraw⟩
    refine ⟨raw ++ "--->" ++ r, ?_, Text.cut?_append_of_not_infix (by decide) hraw r⟩
    rw [List.append_assoc, List.append_assoc, List.append_assoc]
    exact Text.dropStart?_append _ _

theorem closeBreak?_eq_some_iff :
    closeBreak? s = some r ↔ ∃ blanks slash, (∀ c ∈ blanks, Unicode.isBlank c = true) ∧
      (slash = [] ∨ slash = ['/']) ∧ s = blanks ++ (slash ++ '>' :: r) := by
  constructor
  · intro h
    have hblanks : ∀ c ∈ s.takeWhile Unicode.isBlank, Unicode.isBlank c = true :=
      List.all_eq_true.mp List.all_takeWhile
    have hs := List.takeWhile_append_dropWhile (p := Unicode.isBlank) (l := s)
    unfold closeBreak? at h
    split at h
    · next rest hd =>
      obtain rfl := Option.some.inj h
      rw [hd] at hs
      exact ⟨_, [], hblanks, .inl rfl, hs.symm⟩
    · next rest hd =>
      obtain rfl := Option.some.inj h
      rw [hd] at hs
      exact ⟨_, ['/'], hblanks, .inr rfl, hs.symm⟩
    · cases h
  · rintro ⟨blanks, slash, hblanks, rfl | rfl, rfl⟩
    · rw [closeBreak?, List.nil_append, Text.dropWhile_append_cons hblanks (by decide)]
      rfl
    · rw [closeBreak?, List.singleton_append, Text.dropWhile_append_cons hblanks (by decide)]
      rfl

/-- A token is read where the text begins with it. -/
theorem exists_spells_of_read? {a : InlineToken} (h : read? s = some (a, r)) : ∃ x, a.Spells x ∧ s = x ++ r := by
  unfold read? at h
  split at h
  · next raw rest hd =>
    obtain ⟨rfl, rfl⟩ := Prod.mk.inj (Option.some.inj h)
    exact ⟨_, .directive raw, (readDirective?_eq_some_iff.mp hd).1⟩
  · obtain ⟨u, hu, he⟩ := Option.map_eq_some_iff.mp h
    obtain ⟨rfl, rfl⟩ := Prod.mk.inj he
    obtain ⟨t, ht, hbreak⟩ := Option.bind_eq_some_iff.mp hu
    obtain ⟨blanks, slash, hblanks, hslash, rfl⟩ := closeBreak?_eq_some_iff.mp hbreak
    exact ⟨_, .lineBreak hblanks hslash, by simp [Text.eq_append_of_dropStart? ht]⟩

theorem read?_directive (h : readDirective? s = some (raw, r)) : read? s = some (directive raw, r) := by
  rw [read?, h]

theorem readDirective?_of_read? (h : read? s = some (directive raw, r)) : readDirective? s = some (raw, r) := by
  unfold read? at h
  split at h
  · next hd =>
    cases h
    exact hd
  · obtain ⟨u, _, he⟩ := Option.map_eq_some_iff.mp h
    cases he

theorem Spells.read?_ne_none {a : InlineToken} {x : Text} (h : a.Spells x) (r : Text) : read? (x ++ r) ≠ none := by
  cases h with
  | directive raw =>
    -- The directive that is read may end before this one does.
    obtain ⟨raw', r', hcut⟩ := Text.exists_cut?_of_infix (n := "--->") (List.infix_append raw _ r)
    have hread : readDirective? ("<!---" ++ raw ++ "--->" ++ r) = some (raw', r') := by
      rw [readDirective?, List.append_assoc, List.append_assoc, Text.dropStart?_append, ← List.append_assoc]
      exact hcut
    rw [read?_directive hread]
    exact Option.some_ne_none _
  | @lineBreak blanks slash hblanks hslash =>
    have hclose : closeBreak? (blanks ++ (slash ++ '>' :: r)) = some r :=
      closeBreak?_eq_some_iff.mpr ⟨blanks, slash, hblanks, hslash, rfl⟩
    have hdirective : readDirective? ("<br" ++ (blanks ++ (slash ++ '>' :: r))) = none := rfl
    have hread : read? ("<br" ++ (blanks ++ (slash ++ '>' :: r))) = some (.lineBreak, r) := by
      rw [read?, hdirective, Text.dropStart?_append]
      exact congrArg (Option.map _) hclose
    simpa using Option.ne_none_iff_exists'.mpr ⟨_, hread⟩

theorem Spells.ne_nil {a : InlineToken} {x : Text} (h : a.Spells x) : x ≠ [] := by
  cases h with
  | directive raw => exact List.cons_ne_nil _ _
  | lineBreak => exact List.cons_ne_nil _ _

end InlineToken

/-- The pieces spell the text. A comment ends with its first end, and no token is left in plain pieces, of which
there are as few as can be. -/
structure SpelledBy (s : Text) (ps : List (Piece InlineToken)) : Prop where
  spelled : ∃ xs, List.Forall₂ (Piece.Spells InlineToken.Spells) ps xs ∧ s = xs.flatten
  raw : ∀ raw, .found (.directive raw) ∈ ps → ¬ "--->".toList <:+: raw
  plain : ∀ t, .plain t ∈ ps → t ≠ [] ∧ ∀ a x, InlineToken.Spells a x → ¬ x <:+: t
  apart : ps.IsChain fun p q => ¬ (p.IsPlain ∧ q.IsPlain)

theorem spelledBy_inlinePieces (s : Text) : SpelledBy s (inlinePieces s) where
  spelled := InlineToken.pattern.exists_spelled InlineToken.exists_spells_of_read? s
  raw := by
    intro raw h
    obtain ⟨s', r, hread⟩ := InlineToken.pattern.exists_read?_of_found h
    exact (InlineToken.readDirective?_eq_some_iff.mp (InlineToken.readDirective?_of_read? hread)).2
  plain := fun t h => ⟨InlineToken.pattern.plain_ne_nil h, fun a x hx =>
    InlineToken.pattern.not_infix_of_plain hx hx.ne_nil hx.read?_ne_none h⟩
  apart := InlineToken.pattern.isChain_split s

/-- What pieces of raw HTML come to from a writer on, and what that is without the results of directives. -/
inductive Shows : Writer → List (Piece InlineToken) → (html own : Text) → Prop
  | nil (w : Writer) : Shows w [] [] []
  | plain {w : Writer} {t x html own : Text} {ps : List (Piece InlineToken)} (hlt : '<' ∉ x)
      (hunescape : unescape x = unescape t) (hdecode : decode x = decode t) (h : Shows w ps html own) :
      Shows w (.plain t :: ps) (x ++ html) (x ++ own)
  | lineBreak {w : Writer} {html own : Text} {ps : List (Piece InlineToken)} (h : Shows w ps html own) :
      Shows w (.found .lineBreak :: ps) ((w.openTag "br").write ++ html) ((w.openTag "br").write ++ own)
  | directive {w : Writer} {raw html own : Text} {ps : List (Piece InlineToken)}
      (h : Shows (w.directive raw).1 ps html own) :
      Shows w (.found (.directive raw) :: ps) (writeAll (w.directive raw).2 ++ html) own

theorem exists_shows {w : Writer} (hw : w.suppressHtml = true) (ps : List (Piece InlineToken)) :
    ∃ own, Shows w ps (writeAll (Writer.pieces Writer.rawText w ps).2) own := by
  induction ps generalizing w with
  | nil => exact ⟨[], .nil w⟩
  | cons p ps ih =>
    match p with
    | .plain t =>
      obtain ⟨own, h⟩ := ih hw
      have hraw : w.rawText t = [.verbatim (escapeLenient t)] := by rw [Writer.rawText, if_pos hw]
      rw [Writer.pieces, hraw]
      exact ⟨_, .plain (lt_notMem_escapeLenient t) (unescape_escapeLenient t) (decode_escapeLenient t) h⟩
    | .found .lineBreak =>
      obtain ⟨own, h⟩ := ih hw
      exact ⟨_, .lineBreak h⟩
    | .found (.directive raw) =>
      obtain ⟨own, h⟩ := ih (w := (w.directive raw).1) hw
      rw [Writer.pieces, writeAll_append]
      exact ⟨own, .directive h⟩

/-- Beside the results of directives there is a tag for each line break and nothing else that begins with a bracket. -/
theorem Shows.breaks {w : Writer} {ps : List (Piece InlineToken)} {html own : Text} (h : Shows w ps html own) :
    ∃ l : Interleaved (List Attribute), own = l.write (fun as => (Markup.opening "br" as).write) ∧
      l.items.length = ps.count (.found .lineBreak) ∧ ∀ gap ∈ l.gaps, '<' ∉ gap := by
  induction h with
  | nil => exact ⟨⟨[], []⟩, rfl, rfl, by decide⟩
  | @plain w t x html own ps hlt _ _ _ ih =>
    obtain ⟨⟨first, rest⟩, rfl, hitems, hgaps⟩ := ih
    simp only [Interleaved.gaps, List.forall_mem_cons] at hgaps
    refine ⟨⟨x ++ first, rest⟩, (List.append_assoc _ _ _).symm, ?_, ?_⟩
    · rwa [List.count_cons_of_ne (by simp)]
    · exact List.forall_mem_cons.mpr ⟨List.not_mem_append hlt hgaps.1, hgaps.2⟩
  | @lineBreak w html own ps _ ih =>
    obtain ⟨l, rfl, hitems, hgaps⟩ := ih
    refine ⟨⟨[], (w.classAttribute "br", l.first) :: l.rest⟩, ?_, ?_, ?_⟩
    · simp [Interleaved.write, Interleaved.writeRest, Writer.openTag]
    · rw [List.count_cons_self, ← hitems]
      rfl
    · exact List.forall_mem_cons.mpr ⟨List.not_mem_nil, hgaps⟩
  | directive _ ih =>
    obtain ⟨l, hown, hitems, hgaps⟩ := ih
    exact ⟨l, hown, by rwa [List.count_cons_of_ne (by simp)], hgaps⟩

/-- The pieces of a text spell it and leave no token in what is plain. Where raw HTML is suppressed, every plain
piece is shown as it would have been seen, and beside the results of directives the only tags are line breaks. -/
theorem inlinePieces_lossless (s : Text) :
    SpelledBy s (inlinePieces s) ∧
    ∀ w : Writer, w.suppressHtml = true → ∃ own, Shows w (inlinePieces s) (writeAll (w.rawHtml s).2) own ∧
      ∃ l : Interleaved (List Attribute), own = l.write (fun as => (Markup.opening "br" as).write) ∧
        l.items.length = (inlinePieces s).count (.found .lineBreak) ∧ ∀ gap ∈ l.gaps, '<' ∉ gap := by
  refine ⟨spelledBy_inlinePieces s, fun w hw => ?_⟩
  obtain ⟨own, hshows⟩ := exists_shows hw (inlinePieces s)
  exact ⟨own, hshows, hshows.breaks⟩

/-- Markup, a reference with its end and one without, a comment around a line break, and more dashes behind it. -/
def mixedHtml : Text := "<i>&lt;&copy<br\t/><!---<br>--->-->"

theorem inlinePieces_lossless_mixed_html :
    inlinePieces mixedHtml = [.plain "<i>&lt;&copy", .found .lineBreak, .found (.directive "<br>"), .plain "-->"] ∧
    (Writer.ofConfig .default).suppressHtml = true ∧
    writeAll ((Writer.ofConfig .default).rawHtml mixedHtml).2 =
      "&lt;i&gt;&lt;&amp;copy<br class=\"jsh-md-br\">--&gt;".toList ∧
    ∃ own, Shows (Writer.ofConfig .default) (inlinePieces mixedHtml)
        (writeAll ((Writer.ofConfig .default).rawHtml mixedHtml).2) own ∧
      ∃ l : Interleaved (List Attribute), own = l.write (fun as => (Markup.opening "br" as).write) ∧
        l.items.length = 1 ∧ ∀ gap ∈ l.gaps, '<' ∉ gap := by
  have hpieces : inlinePieces mixedHtml =
      [.plain "<i>&lt;&copy", .found .lineBreak, .found (.directive "<br>"), .plain "-->"] := by decide +kernel
  obtain ⟨own, hshows, l, hown, hitems, hgaps⟩ := (inlinePieces_lossless mixedHtml).2 (Writer.ofConfig .default) rfl
  refine ⟨hpieces, rfl, by decide +kernel, own, hshows, l, hown, ?_, hgaps⟩
  rw [hitems, hpieces]
  rfl

end Markweave.Html
