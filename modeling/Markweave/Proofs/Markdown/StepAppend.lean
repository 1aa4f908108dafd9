import Markweave.Proofs.Markdown.Lookahead

namespace Markweave.Markdown.BlockReader

open Marker

variable {opts : Options} {o : Outline} {s w : Text} {c : Cursor}

theorem startIndented_append (h : '\n' ∈ c.rest) (o : Outline) (w : Text) :
    startIndented o (c.append w) = restAppend w (startIndented o c) := by
  have hcut : cutFullLine (c.append w).rest = _ := cutFullLine_append h w
  rw [startIndented, startIndented, hcut]
  rfl

theorem addHtml_append (h : '\n' ∈ s) (o : Outline) (ending : RawHtml.BlockEnd) (lines : List HtmlLine)
    (indentation w : Text) :
    addHtml o ending lines indentation (s ++ w) = restAppend w (addHtml o ending lines indentation s) := by
  have hcut := cutFullLine_append h w
  obtain ⟨line, rest, hline⟩ : ∃ line rest, cutFullLine s = (line, rest) := ⟨_, _, rfl⟩
  rw [hline, restAppend] at hcut
  rw [addHtml, addHtml, hline, hcut]
  dsimp only
  split <;> rfl

theorem drop_of_headingLevel? {level : HeadingLevel} (hl : headingLevel? s = some level) :
    s.drop level.number = s.dropWhile (· == '#') ∧ level.number ≤ s.length := by
  have hnumber : ∀ n, HeadingLevel.ofNat? n = some level → level.number = n := by
    intro n hn
    rw [HeadingLevel.ofNat?.eq_def] at hn
    split at hn
    all_goals first
      | cases hn
        rfl
      | cases hn
  rw [headingLevel?] at hl
  split at hl
  · rw [hnumber _ hl, drop_runLength]
    exact ⟨rfl, (List.takeWhile_prefix _).length_le⟩
  · cases hl

theorem startHeading_append {level : HeadingLevel} (h : '\n' ∈ s) (hl : headingLevel? s = some level) (o : Outline)
    (w : Text) : startHeading o level (s ++ w) = restAppend w (startHeading o level s) := by
  obtain ⟨hdrop, hlength⟩ := drop_of_headingLevel? hl
  have hmem := newline_mem_dropWhile (p := (· == '#')) rfl h
  rw [← hdrop] at hmem
  rw [startHeading, startHeading, List.drop_append_of_le_length hlength, dropLineEnd?_append hmem,
    dropWhile_append_of_newline rfl hmem, cutFullLine_append (newline_mem_dropWhile rfl hmem)]
  cases dropLineEnd? (s.drop level.number) with
  | none => rfl
  | some rest => rfl

theorem startFenced_append (h : '\n' ∈ s) (o : Outline) (f : Fence) (indent : Nat) (w : Text) :
    startFenced o f indent (s ++ w) = restAppend w (startFenced o f indent s) := by
  rw [startFenced, startFenced, dropWhile_append_of_newline rfl h,
    cutFullLine_append (newline_mem_dropWhile rfl h)]
  rfl

theorem startParagraph_append (h : '\n' ∈ s) (o : Outline) (w : Text) :
    startParagraph o (s ++ w) = restAppend w (startParagraph o s) := by
  rw [startParagraph, startParagraph, cutLine_append h]
  rfl

theorem newline_mem_of_fence? {found : Fence × Text} (h : '\n' ∈ s) (hf : fence? s = some found) : '\n' ∈ found.2 := by
  obtain ⟨c, r, rfl, hc⟩ := fence?_head (t := s) (by rw [hf]; rfl)
  have hp : ('\n' == c) = false := by rcases hc with rfl | rfl <;> rfl
  have hrest : found.2 = (c :: r).dropWhile (· == c) := by
    rw [← drop_runLength]
    rw [fence?] at hf
    split at hf
    · cases hf
    · split at hf
      · rw [← Option.some.inj hf]
      · split at hf
        · rw [← Option.some.inj hf]
        · cases hf
  rw [hrest]
  exact newline_mem_dropWhile (p := (· == c)) hp h

/-- A step of the reader that goes on behind the text, as far as a title may go on there. -/
def Overruns (w : Text) (longer : Outline × Text) : Prop :=
  (∃ o, (titleLine o w).isSome = true) ∧ longer.2 <:+ w.tail

theorem startLeaf_append (h : '\n' ∈ c.rest) (hlast : c.rest.getLast? = some '\n')
    (hfence : AboveFence c.rest ∨ c.AtFence) (he : NoEscapedFence c.rest) (w : Text) :
    startLeaf opts o (c.append w) = restAppend w (startLeaf opts o c) ∨
      Overruns w (startLeaf opts o (c.append w)) := by
  obtain ⟨missing, place, hskip, happend, hline⟩ := Cursor.exists_skip h 4 w
  have hmem := hline.newline_mem h
  have hplace : (place.append w).rest = place.rest ++ w := rfl
  rw [startLeaf, startLeaf, hskip, happend]
  cases missing with
  | zero => exact .inl (startIndented_append hmem o w)
  | succ missing =>
    simp only [hplace, RawHtml.blockStart?_append hmem, thematicBreak?_append hmem, headingLevel?_append hmem,
      fence?_append hmem]
    cases RawHtml.blockStart? place.rest with
    | some ending => exact .inl (addHtml_append hmem o ending [] _ w)
    | none =>
      cases thematicBreak? place.rest with
      | some rest => exact .inl rfl
      | none =>
        cases hl : headingLevel? place.rest with
        | some level => exact .inl (startHeading_append hmem hl o w)
        | none =>
          cases hf : fence? place.rest with
          | some fence =>
            left
            refine startFenced_append ?_ o fence.1 _ w
            exact newline_mem_of_fence? hmem hf
          | none =>
            have hplaceAbove : AboveFence place.rest := by
              rcases hfence with habove | hat
              · exact (AboveFence.sameLine_iff hline).mp habove
              · obtain ⟨_, place', hskip', hopens⟩ := hat.skip_four
                rw [hskip] at hskip'
                obtain ⟨_, rfl⟩ := Prod.mk.inj hskip'
                rw [hf] at hopens
                cases hopens
            have hplaceLast := Link.getLast?_suffix hlast hline.suffix (List.ne_nil_of_mem hmem)
            rcases definition?_append opts o hplaceAbove (he.suffix hline.suffix) hplaceLast w with
              hsame | ⟨hbehind, label, target, r, hlonger, hr⟩
            · left
              simp only [Option.map_none, hsame]
              cases definition? opts o place.rest with
              | none => exact startParagraph_append hmem o w
              | some found => rfl
            · right
              simp only [Option.map_none, hlonger]
              exact ⟨⟨o, hbehind⟩, hr⟩

theorem width_pos_of_listMark? {m : ListMark} (hm : listMark? s = some m) : 0 < m.width := by
  rw [listMark?] at hm
  split at hm
  · cases hm
  · split at hm
    · rw [← Option.some.inj hm]
      exact Nat.one_pos
    · dsimp only at hm
      split at hm
      · split at hm
        · cases hm
        · split at hm
          · rw [← Option.some.inj hm]
            exact Nat.succ_pos _
          · cases hm
      · cases hm

theorem length_of_listItem? {m : ListMark} {indent : Nat} {place : Cursor} (h : '\n' ∈ c.rest)
    (hi : listItem? c = some (m, indent, place)) : place.rest.length < c.rest.length := by
  rw [listItem?] at hi
  cases hm : listMark? c.rest with
  | none =>
    rw [hm] at hi
    cases hi
  | some mark =>
    have hpos := List.length_pos_of_mem h
    have hwidth := width_pos_of_listMark? hm
    have hbehind : (c.advance mark.width).rest.length < c.rest.length := by
      rw [Cursor.advance, List.length_drop]
      omega
    have hnext := (Cursor.sameLine_skip (c.advance mark.width) 1).suffix.length_le
    have hcontent := (Cursor.sameLine_skip ((c.advance mark.width).skip 1).2 4).suffix.length_le
    rw [hm] at hi
    dsimp only at hi
    split at hi
    · cases hi
    · split at hi
      · cases hi
      · split at hi
        · obtain ⟨rfl, rfl, rfl⟩ := by simpa using hi
          omega
        · split at hi
          · obtain ⟨rfl, rfl, rfl⟩ := by simpa using hi
            omega
          · obtain ⟨rfl, rfl, rfl⟩ := by simpa using hi
            omega

theorem length_of_quoteMark? {inside : Cursor} (hq : Frame.quoteMark? c = some inside) :
    inside.rest.length < c.rest.length := by
  have hplace := (Cursor.sameLine_skip c 3).suffix.length_le
  rw [Frame.quoteMark?] at hq
  dsimp only at hq
  split at hq
  · next rest hrest =>
    obtain rfl := Option.some.inj hq
    have hinside := (Cursor.sameLine_skip ((c.skip 3).2.advance 1) 1).suffix.length_le
    rw [Cursor.advance, hrest, List.drop_one, List.tail_cons] at hinside
    rw [hrest, List.length_cons] at hplace
    rw [Cursor.advance, hrest]
    exact Nat.lt_of_le_of_lt hinside hplace
  · cases hq

/-- With `w` behind the same frames are opened at a place; the reader is still on its line, or below it when nothing
is left to do. -/
structure OpensSame (c : Cursor) (w : Text) (opened longer : Outline × Cursor × Bool) : Prop where
  longer_eq : longer = (opened.1, opened.2.1.append w, opened.2.2)
  sameLine : opened.2.2 = false → SameLine c.rest opened.2.1.rest
  below : opened.2.2 = true → ∃ t, SameLine c.rest t ∧ dropBlankLine? t = some opened.2.1.rest

namespace OpensSame

theorem here (o : Outline) (c : Cursor) (w : Text) : OpensSame c w (o, c, false) (o, c.append w, false) :=
  ⟨rfl, fun _ => .refl _, nofun⟩

theorem blank {t rest : Text} (o : Outline) (ht : SameLine c.rest t) (h : dropBlankLine? t = some rest) (w : Text) :
    OpensSame c w (o, ⟨rest, 0, 0⟩, true) (o, ⟨rest ++ w, 0, 0⟩, true) :=
  ⟨rfl, nofun, fun _ => ⟨t, ht, h⟩⟩

theorem within {inside : Cursor} {opened longer : Outline × Cursor × Bool} (hline : SameLine c.rest inside.rest)
    (h : OpensSame inside w opened longer) : OpensSame c w opened longer :=
  ⟨h.longer_eq, fun hr => hline.trans (h.sameLine hr), fun hr => (h.below hr).imp fun _ ht => ⟨hline.trans ht.1, ht.2⟩⟩

/-- Nothing is left to do on a line that is blank behind a mark. -/
theorem blankOr {inside : Cursor} {opened longer : Outline × Cursor × Bool} (hline : SameLine c.rest inside.rest)
    (hmem : '\n' ∈ inside.rest) (o : Outline) (h : OpensSame inside w opened longer) :
    OpensSame c w
      (match dropBlankLine? inside.rest with | some rest => (o, ⟨rest, 0, 0⟩, true) | none => opened)
      (match dropBlankLine? (inside.append w).rest with | some rest => (o, ⟨rest, 0, 0⟩, true) | none => longer) := by
  have hblank : dropBlankLine? (inside.append w).rest = _ := dropBlankLine?_append hmem w
  rw [hblank]
  cases hdrop : dropBlankLine? inside.rest with
  | some rest => exact .blank o hline hdrop w
  | none => exact h.within hline

end OpensSame

/-- The same frames are opened, whatever number of frames may be. -/
theorem openFrames_append (opts : Options) {m n : Nat} (h : '\n' ∈ c.rest) (hm : c.rest.length ≤ m)
    (hn : c.rest.length ≤ n) (o : Outline) (w : Text) :
    OpensSame c w (openFrames opts m o c) (openFrames opts n o (c.append w)) := by
  have hpos := List.length_pos_of_mem h
  induction m generalizing n o c with
  | zero => omega
  | succ m ih =>
    obtain ⟨n, rfl⟩ := Nat.exists_eq_add_of_le' (Nat.le_trans hpos hn)
    have hshorter : ∀ {inside : Cursor} (o : Outline), '\n' ∈ inside.rest → inside.rest.length < c.rest.length →
        OpensSame inside w (openFrames opts m o inside) (openFrames opts n o (inside.append w)) := by
      intro inside o hmem hlt
      exact ih hmem (by omega) (by omega) o (List.length_pos_of_mem hmem)
    obtain ⟨missing, mark, hskip, happend, hmark⟩ := Cursor.exists_skip h 4 w
    have hmem := hmark.newline_mem h
    have hshort := hmark.suffix.length_le
    obtain ⟨hitem, hitemline⟩ := listItem?_append hmem w
    rw [openFrames, openFrames, hskip, happend]
    cases missing with
    | zero => exact .here o c w
    | succ missing =>
      simp only [hitem]
      cases hi : listItem? mark with
      | some found =>
        obtain ⟨listMark, indent, content⟩ := found
        have hcontent := hitemline _ _ _ hi
        have hcontentmem := hcontent.newline_mem hmem
        have hlength := length_of_listItem? hmem hi
        have hopens := hshorter (o.openItem listMark (4 - (missing + 1) + indent)) hcontentmem (by omega)
        refine .blankOr (hmark.trans hcontent) hcontentmem _ ?_
        cases htasks : opts.taskLists with
        | false => exact hopens
        | true =>
          obtain ⟨hbox, hboxline⟩ := taskBox?_append hcontentmem w
          simp only [hbox, if_true]
          cases hb : taskBox? content with
          | none => exact hopens
          | some box =>
            obtain ⟨checked, behind⟩ := box
            have hbehind := hboxline checked behind hb
            have hbehindmem := hbehind.newline_mem hcontentmem
            have hbehindlength := hbehind.suffix.length_le
            exact .blankOr hbehind hbehindmem _ (hshorter _ hbehindmem (by omega))
      | none =>
        simp only [Option.map_none, Frame.quoteMark?_append h]
        cases hq : Frame.quoteMark? c with
        | none => exact .here o c w
        | some inside =>
          have hinside := Frame.sameLine_quoteMark? hq
          exact (hshorter _ (hinside.newline_mem h) (length_of_quoteMark? hq)).within hinside

theorem listMark?_of_fence? (h : (fence? s).isSome = true) : listMark? s = none := by
  obtain ⟨d, r, rfl, rfl | rfl⟩ := fence?_head h <;> rfl

/-- A fence opens no frames. -/
theorem openFrames_of_atFence (h : c.AtFence) (n : Nat) (o : Outline) : openFrames opts n o c = (o, c, false) := by
  cases n with
  | zero => rfl
  | succ n =>
    obtain ⟨missing, place, hskip, hfence⟩ := h.skip_four
    have hitem : listItem? place = none := by rw [listItem?, listMark?_of_fence? hfence]
    rw [openFrames, hskip]
    simp only [hitem, h.quoteMark?]

theorem startBlock_append (opts : Options) (hb : Barred s) (he : NoEscapedFence s) (hlast : s.getLast? = some '\n')
    (o : Outline) (w : Text) : startBlock opts o (s ++ w) = restAppend w (startBlock opts o s) ∨
      Overruns w (startBlock opts o (s ++ w)) := by
  obtain ⟨n, inside, henter, happend, hinside⟩ := o.exists_enter hb.newline_mem w
  have hmem := hinside.newline_mem hb.newline_mem
  have hlength := hinside.suffix.length_le
  obtain ⟨hopen, hline, _⟩ := openFrames_append opts (m := s.length) (n := (s ++ w).length) hmem hlength
    (by rw [List.length_append]; omega) (o.leave (o.frames.length - n)) w
  have hfence : (openFrames opts s.length (o.leave (o.frames.length - n)) inside).2.2 = false →
      AboveFence (openFrames opts s.length (o.leave (o.frames.length - n)) inside).2.1.rest ∨
        (openFrames opts s.length (o.leave (o.frames.length - n)) inside).2.1.AtFence := by
    intro hr
    rcases hb.cases with hs | habove
    · have hat := atFence_enter hs o
      rw [henter] at hat
      rw [openFrames_of_atFence hat]
      exact .inr hat
    · exact .inl ((AboveFence.sameLine_iff (hinside.trans (hline hr))).mp habove)
  rw [startBlock, startBlock, henter, happend]
  simp only [hopen]
  generalize openFrames opts s.length (o.leave (o.frames.length - n)) inside = opened at hline hfence ⊢
  obtain ⟨o', c, done⟩ := opened
  cases done with
  | true => exact .inl rfl
  | false =>
    have hc := hinside.trans (hline rfl)
    have hcmem := hc.newline_mem hb.newline_mem
    have hblank : dropBlankLine? (c.append w).rest = _ := dropBlankLine?_append hcmem w
    simp only [hblank]
    cases dropBlankLine? c.rest with
    | some rest => exact .inl rfl
    | none =>
      exact startLeaf_append hcmem (Link.getLast?_suffix hlast hc.suffix (List.ne_nil_of_mem hcmem)) (hfence rfl)
        (he.suffix hc.suffix) w

theorem table?_append (h : '\n' ∈ s) (o : Outline) (content : Text) (lines : Nat) (w : Text) :
    table? opts o content lines (s ++ w) = (table? opts o content lines s).map (restAppend w) := by
  obtain ⟨happend, hline⟩ := o.enterAll?_append h w
  rw [table?, table?, happend]
  dsimp only
  split
  · rfl
  · cases hi : o.enterAll? s with
    | none => rfl
    | some inside =>
      simp only [Option.map_some, Option.bind_eq_bind, Option.bind_some,
        Table.dashLine?_append ((hline inside hi).newline_mem h)]
      cases Table.dashLine? inside with
      | none => rfl
      | some found =>
        simp only [Option.map_some, restAppend, Option.bind_some]
        split <;> rfl

theorem continueParagraph_append (hb : Barred s) (he : NoEscapedFence s) (hlast : s.getLast? = some '\n')
    (o : Outline) (task : Option Bool) (content : Text) (lines : Nat) (w : Text) :
    continueParagraph opts o task content lines (s ++ w) =
        restAppend w (continueParagraph opts o task content lines s) ∨
      Overruns w (continueParagraph opts o task content lines (s ++ w)) := by
  obtain ⟨n, inside, henter, happend, hinside⟩ := o.exists_enter hb.newline_mem w
  have hmem := hinside.newline_mem hb.newline_mem
  obtain ⟨missing, place, hskip, hmore, hline⟩ := Cursor.exists_skip hmem 4 w
  have hplace := hline.newline_mem hmem
  have hnext : '\n' ∈ (cutLine place.rest).2.2 ∨ (fence? place.rest).isSome = true := by
    rcases hb.cases with hs | habove
    · have hat := atFence_enter hs o
      rw [henter] at hat
      obtain ⟨_, place', hskip', hfence⟩ := hat.skip_four
      rw [hskip] at hskip'
      obtain ⟨_, rfl⟩ := Prod.mk.inj hskip'
      exact .inr hfence
    · exact .inl (Barred.newline_mem ((AboveFence.sameLine_iff (hinside.trans hline)).mp habove))
  have hunderline : ∀ p : Bool, (if p = true then underline? (place.append w).rest else none) =
      (if p = true then underline? place.rest else none).map (restAppend w) := by
    intro p
    cases p with
    | true => exact underline?_append hplace w
    | false => rfl
  have hends : ∀ entered,
      endsParagraph opts o entered (place.append w).rest = endsParagraph opts o entered place.rest :=
    fun entered => endsParagraph_append hplace hnext entered w
  have hend : atLineEnd (place.append w).skipAll.rest = atLineEnd place.skipAll.rest := by
    rw [Cursor.skipAll_append hplace]
    exact atLineEnd_append (newline_mem_dropWhile rfl hplace) w
  have hcut : cutLine (inside.append w).rest = _ := cutLine_append hmem w
  rw [continueParagraph, continueParagraph, table?_append hb.newline_mem]
  cases table? opts o content lines s with
  | some found => exact .inl rfl
  | none =>
    simp only [Option.map_none, henter, happend, hskip, hmore, hunderline, hends, hend, hcut]
    cases if (decide (missing ≠ 0) && decide (n = o.frames.length)) = true then underline? place.rest else none with
    | some found => exact .inl rfl
    | none =>
      rw [Option.map_none]
      dsimp only
      split
      · exact startBlock_append opts hb he hlast o.closeLeaf w
      · exact .inl rfl

theorem continueFenced_append {f : Fence} (hf : f.mark ≠ '\n') (h : '\n' ∈ c.rest) (o : Outline) (indent : Nat)
    (info content w : Text) :
    continueFenced o f indent info content (c.append w) = restAppend w (continueFenced o f indent info content c) := by
  obtain ⟨_, place, hskip, happend, hline⟩ := Cursor.exists_skip h indent w
  have hplace := hline.newline_mem h
  obtain ⟨missing, mark, hmark, hmore, hmarkline⟩ := Cursor.exists_skip hplace (4 - indent) w
  have hend : (if missing ≠ 0 then fenceEnd? f (mark.append w).rest else none) =
      (if missing ≠ 0 then fenceEnd? f mark.rest else none).map (· ++ w) := by
    split
    · exact fenceEnd?_append hf (hmarkline.newline_mem hplace) w
    · rfl
  have hcut : cutFullLine (place.append w).rest = _ := cutFullLine_append hplace w
  rw [continueFenced, continueFenced, hskip, happend]
  dsimp only
  rw [hmark, hmore]
  dsimp only
  rw [hend, hcut]
  cases if missing ≠ 0 then fenceEnd? f mark.rest else none with
  | some rest => rfl
  | none => rfl

theorem continueIndented_append (hb : Barred s) (he : NoEscapedFence s) (hlast : s.getLast? = some '\n')
    (h : '\n' ∈ c.rest) (o : Outline) (content blanks w : Text) :
    continueIndented opts o content blanks (c.append w) (s ++ w) =
        restAppend w (continueIndented opts o content blanks c s) ∨
      Overruns w (continueIndented opts o content blanks (c.append w) (s ++ w)) := by
  obtain ⟨missing, place, hskip, happend, hline⟩ := Cursor.exists_skip h 4 w
  have hplace := hline.newline_mem h
  have hend : atLineEnd (place.append w).rest = _ := atLineEnd_append hplace w
  have hblank : isBlank (place.append w).rest = _ := isBlank_append hplace w
  have hcut : cutFullLine (place.append w).rest = _ := cutFullLine_append hplace w
  rw [continueIndented, continueIndented, hskip, happend]
  simp only [hend, hblank, hcut, restAppend]
  split
  · exact startBlock_append opts hb he hlast o.closeLeaf w
  · split <;> exact .inl rfl

theorem continueHtml_append (hb : Barred s) (he : NoEscapedFence s) (hlast : s.getLast? = some '\n')
    (h : '\n' ∈ c.rest) (o : Outline) (ending : RawHtml.BlockEnd) (lines : List HtmlLine) (w : Text) :
    continueHtml opts o ending lines (c.append w) (s ++ w) = restAppend w (continueHtml opts o ending lines c s) ∨
      Overruns w (continueHtml opts o ending lines (c.append w) (s ++ w)) := by
  have hblank : isBlank (c.append w).rest = _ := isBlank_append h w
  have hempty : decide ((c.append w).rest = []) = decide (c.rest = []) := by
    obtain ⟨d, r, hd⟩ := List.exists_cons_of_ne_nil (List.ne_nil_of_mem h)
    simp [Cursor.append, hd]
  rw [continueHtml, continueHtml]
  simp only [hblank, hempty]
  split
  · exact startBlock_append opts hb he hlast o.closeLeaf w
  · exact .inl (addHtml_append h o ending lines _ w)

theorem continueTable_append (hb : Barred s) (he : NoEscapedFence s) (hlast : s.getLast? = some '\n')
    (h : '\n' ∈ c.rest) (hnext : AboveFence c.rest ∨ c.AtFence) (o : Outline) (alignments : List Alignment)
    (head : List Text) (rows : List (List Text)) (w : Text) :
    continueTable opts o alignments head rows (c.append w) (s ++ w) =
        restAppend w (continueTable opts o alignments head rows c s) ∨
      Overruns w (continueTable opts o alignments head rows (c.append w) (s ++ w)) := by
  have hplace : '\n' ∈ c.skipAll.rest := newline_mem_dropWhile rfl h
  have hcut : cutLine (c.skipAll.append w).rest = _ := cutLine_append hplace w
  have hbelow : '\n' ∈ (cutLine c.skipAll.rest).2.2 ∨ (fence? c.skipAll.rest).isSome = true := by
    rcases hnext with habove | hat
    · have hline : SameLine c.rest c.skipAll.rest := SameLine.dropWhile (fun d hd => by
        simp only [Bool.or_eq_true, beq_iff_eq] at hd
        rcases hd with rfl | rfl <;> rfl) c.rest
      exact .inl (Barred.newline_mem ((AboveFence.sameLine_iff hline).mp habove))
    · exact .inr hat.skipAll
  have hends : endsText true true (c.skipAll.append w).rest = _ := endsText_append hplace hbelow true true w
  rw [continueTable, continueTable, Cursor.skipAll_append h]
  simp only [hcut, hends]
  split
  · exact startBlock_append opts hb he hlast o.closeLeaf w
  · exact .inl rfl

/-- Text behind a fence changes a step above it only by a title that goes on there. -/
theorem step_append (hb : Barred s) (he : NoEscapedFence s) (hlast : s.getLast? = some '\n')
    (hleaf : ∀ f indent info content, o.leaf = .fenced f indent info content → f.mark ≠ '\n') (w : Text) :
    step opts o (s ++ w) = restAppend w (step opts o s) ∨ Overruns w (step opts o (s ++ w)) := by
  obtain ⟨happend, hline⟩ := o.enterAll?_append hb.newline_mem w
  have hblock := startBlock_append opts hb he hlast
  rw [step, step, happend]
  cases hl : o.leaf with
  | none => exact hblock o w
  | paragraph task content lines => exact continueParagraph_append hb he hlast o task content lines w
  | fenced f indent info content =>
    cases hi : o.enterAll? s with
    | none => exact hblock o.closeLeaf w
    | some c =>
      exact .inl (continueFenced_append (hleaf f indent info content hl) ((hline c hi).newline_mem hb.newline_mem) o
        indent info content w)
  | indented content blanks =>
    cases hi : o.enterAll? s with
    | none => exact hblock o.closeLeaf w
    | some c => exact continueIndented_append hb he hlast ((hline c hi).newline_mem hb.newline_mem) o content blanks w
  | html ending lines =>
    cases hi : o.enterAll? s with
    | none => exact hblock o.closeLeaf w
    | some c => exact continueHtml_append hb he hlast ((hline c hi).newline_mem hb.newline_mem) o ending lines w
  | table alignments head rows =>
    cases hi : o.enterAll? s with
    | none => exact hblock o.closeLeaf w
    | some c =>
      have hnext : AboveFence c.rest ∨ c.AtFence := by
        rcases hb.cases with hs | habove
        · have hat := atFence_enter hs o
          rw [Outline.enterAll?] at hi
          dsimp only at hi
          split at hi
          · obtain rfl := Option.some.inj hi
            exact .inr hat
          · cases hi
        · exact .inl ((AboveFence.sameLine_iff (hline c hi)).mp habove)
      exact continueTable_append hb he hlast ((hline c hi).newline_mem hb.newline_mem) hnext o alignments head rows w

end Markweave.Markdown.BlockReader
