import Markweave.Proofs.Markdown.Opening

namespace Markweave.Markdown

open Marker

variable {o : Outline} {fs : List Frame} {f g : Frame}

/-- The lines of an open item are indented. -/
def Frame.isIndented : Frame → Bool
  | quote _ => true
  | list l => l.item.all (0 < ·.indent)

theorem Frame.isIndented_add (f : Frame) (b : Block) : (f.add b).isIndented = f.isIndented := by
  cases f with
  | quote blocks => rfl
  | list l =>
    rw [add]
    cases hitem : l.item <;> simp [isIndented, hitem]

/-- Frames as they stand inside each other: all but the innermost have something inside. -/
structure Nested (fs : List Frame) : Prop where
  indented : ∀ f ∈ fs, f.isIndented = true
  solid : ∀ f ∈ fs.tail, f.isIdle = false

namespace Nested

theorem nil : Nested [] := ⟨by simp, by simp⟩

theorem tail (h : Nested (f :: fs)) : Nested fs :=
  ⟨fun g hg => h.indented g (List.mem_cons_of_mem f hg), fun g hg => h.solid g (List.mem_of_mem_tail hg)⟩

/-- Another frame in place of the innermost one. -/
theorem replace (h : Nested (f :: fs)) (hg : g.isIndented = true) : Nested (g :: fs) :=
  ⟨List.forall_mem_cons.mpr ⟨hg, h.tail.indented⟩, h.solid⟩

/-- Another frame inside frames that can have something inside. -/
theorem cons (h : Nested fs) (hsolid : ∀ g ∈ fs, g.isIdle = false) (hf : f.isIndented = true) : Nested (f :: fs) :=
  ⟨List.forall_mem_cons.mpr ⟨hf, h.indented⟩, hsolid⟩

end Nested

namespace Outline

theorem nested_add (h : Nested o.frames) (b : Block) : Nested (o.add b).frames := by
  rw [add]
  split
  · exact h
  · next top below hframes =>
    rw [hframes] at h
    exact h.replace ((top.isIndented_add b).trans (h.indented top List.mem_cons_self))

theorem nested_closeTop (h : Nested o.frames) : Nested o.closeTop.frames := by
  rw [closeTop]
  split
  · exact h
  · next top below hframes =>
    rw [hframes] at h
    exact nested_add (o := { o with frames := below }) h.tail top.toBlock

theorem isIndented_closeItem (l : OpenList) : (Frame.list l.closeItem).isIndented = true := by
  rw [OpenList.closeItem]
  cases hitem : l.item <;> simp [Frame.isIndented, hitem]

theorem nested_leave (n : Nat) (h : Nested o.frames) : Nested (o.leave n).frames := by
  fun_induction leave n o with
  | case1 => exact h
  | case2 o l below hframes =>
    rw [hframes] at h
    exact h.replace (isIndented_closeItem l)
  | case3 => exact nested_closeTop h
  | case4 n o hn ih => exact ih (nested_closeTop h)

theorem nested_closeLeaf (h : Nested o.frames) : Nested o.closeLeaf.frames := by
  rw [closeLeaf]
  split
  · exact h
  · next b _ => exact nested_add (o := { o with leaf := .none, lastBlank := o.lastBlank || o.leaf.endsBlank }) h b

theorem nested_loosen (h : Nested o.frames) : Nested o.loosen.frames := by
  rw [loosen]
  split
  · exact h
  · dsimp only
    split
    · next l below hframes =>
      rw [hframes] at h ⊢
      split
      · exact h.replace (h.indented (.list l) List.mem_cons_self)
      · exact h
    · exact h

theorem solid_iff : (∀ f ∈ o.frames, f.isIdle = false) ↔ true ∉ o.frames.map Frame.isIdle := by
  simp

/-- Behind the end of a list that stands between two items something can be opened in all frames. -/
theorem nested_finishList (h : Nested o.frames) :
    Nested o.finishList.frames ∧ ∀ f ∈ o.finishList.frames, f.isIdle = false := by
  have hclose := o.isIdle_closeTop
  rw [solid_iff, finishList]
  split
  · next l below hframes =>
    rw [hframes] at h hclose
    split
    · refine ⟨nested_loosen (nested_closeTop (hframes ▸ h)), ?_⟩
      rw [isIdle_loosen, hclose]
      simpa using h.solid
    · next hitem =>
      refine ⟨nested_loosen (hframes ▸ h), ?_⟩
      rw [isIdle_loosen, hframes]
      simpa [Frame.isIdle, hitem] using h.solid
  · next hframes =>
    refine ⟨nested_loosen h, ?_⟩
    rw [isIdle_loosen]
    cases hfs : o.frames with
    | nil => simp
    | cons f fs =>
      rw [hfs] at h
      cases f with
      | quote blocks => simpa [Frame.isIdle] using h.solid
      | list l => exact absurd hfs (hframes l fs)

theorem nested_openItem (h : Nested o.frames) (m : ListMark) {indent : Nat} (hindent : 0 < indent) :
    Nested (o.openItem m indent).frames := by
  have hstart : Nested (o.finishList.startList m indent).frames := by
    obtain ⟨hnested, hsolid⟩ := nested_finishList h
    exact hnested.cons hsolid (by simp [Frame.isIndented, hindent])
  rw [openItem]
  split
  · next l below hframes =>
    split
    · rw [hframes] at h
      exact h.replace (by simp [Frame.isIndented, hindent])
    · exact hstart
  · exact hstart

theorem nested_blankLine (h : Nested o.frames) : Nested o.blankLine.frames := by
  rw [blankLine]
  split
  · exact h
  · next l below hframes =>
    split
    · rw [hframes] at h
      exact h.replace (isIndented_closeItem l)
    · exact h
  · exact h

end Outline

namespace BlockReader

theorem opening_nested : Opening (Nested ·.frames) (Nested ·.frames) where
  weaken h := h
  item h m _ hindent := Outline.nested_openItem h m hindent
  quote h := (Outline.nested_finishList h).1.cons (Outline.nested_finishList h).2 rfl
  add h b := Outline.nested_add h b
  emptyItem h := h
  task h _ := h

theorem nested_openFrames (opts : Options) (n : Nat) (h : Nested o.frames) (c : Cursor) :
    Nested (openFrames opts n o c).1.frames := by
  rcases opening_nested.openFrames opts n h c with heq | hnested
  · rwa [heq]
  · exact hnested

end BlockReader

/-- Where all frames are left, at most a list between two items stays. -/
theorem Outline.frames_leave {n : Nat} (h : o.frames.length = n) :
    (o.leave n).frames = [] ∨ ∃ l, (o.leave n).frames = [.list l] ∧ l.item = none := by
  have hclose : ∀ o : Outline, o.closeTop.frames.length = o.frames.length - 1 := by
    intro o
    simpa using congrArg List.length o.isIdle_closeTop
  fun_induction leave n o with
  | case1 => exact .inl (List.length_eq_zero_iff.mp h)
  | case2 o l below hframes =>
    obtain rfl : below = [] := by simpa [hframes] using h
    refine .inr ⟨l.closeItem, rfl, ?_⟩
    rw [OpenList.closeItem]
    cases hitem : l.item <;> simp [hitem]
  | case3 o hframes => exact .inl (List.length_eq_zero_iff.mp (by simp [hclose, h]))
  | case4 n o hn ih => exact ih (by rw [hclose, h, Nat.succ_sub_one])

/-- A list between two items that is the only frame is left by what does not belong to it. -/
theorem Outline.frames_finishList (h : o.frames = [] ∨ ∃ l, o.frames = [.list l] ∧ l.item = none) :
    o.finishList.frames = [] := by
  have hloosen : ∀ o : Outline, o.frames = [] → o.loosen.frames = [] := by
    intro o hnil
    have hidle := o.isIdle_loosen
    rwa [hnil, List.map_nil, List.map_eq_nil_iff] at hidle
  rcases h with hnil | ⟨l, hframes, hitem⟩
  · rw [finishList, hnil]
    exact hloosen o hnil
  · have hclose := o.isIdle_closeTop
    rw [hframes, List.drop_one, List.tail_cons, List.map_nil, List.map_eq_nil_iff] at hclose
    rw [finishList, hframes]
    simpa [hitem] using hloosen o.closeTop hclose

/-- A line that begins so is neither indented nor a line of a quote or of an item. -/
def beginsAtMargin (c : Char) : Bool := !isAsciiBlank c && c != '>'

section Margin

variable {c : Char} (hc : beginsAtMargin c = true) (s : Text)
include hc

theorem skip_atMargin (n : Nat) : (Cursor.start (c :: s)).skip n = (n, .start (c :: s)) := by
  have hblank : c ≠ ' ' ∧ c ≠ '\t' := by
    refine ⟨?_, ?_⟩
    all_goals
      rintro rfl
      cases hc
  exact BlockReader.skip_start_of_head hblank n s

theorem quoteMark?_atMargin : Frame.quoteMark? (.start (c :: s)) = none := by
  have hquote : c ≠ '>' := by
    rintro rfl
    cases hc
  rw [Frame.quoteMark?, skip_atMargin hc]
  simp [Cursor.start, hquote]

/-- Such a line goes on with lists between two items only. -/
theorem enterAll_atMargin (hindented : ∀ f ∈ fs, f.isIndented = true) :
    Frame.enterAll (.start (c :: s)) fs = ((fs.takeWhile Frame.isIdle).length, .start (c :: s)) := by
  induction fs with
  | nil => rfl
  | cons f fs ih =>
    rw [List.forall_mem_cons] at hindented
    have hend : atLineEnd (c :: s) = false := by
      simp [beginsAtMargin, isAsciiBlank] at hc
      simp [atLineEnd, hc]
    have henter : f.enter? (.start (c :: s)) = if f.isIdle then some (.start (c :: s)) else none := by
      cases f with
      | quote blocks => simp [Frame.enter?, Frame.isIdle, quoteMark?_atMargin hc]
      | list l =>
        rw [Frame.enter?]
        cases hitem : l.item with
        | none => simp [Frame.isIdle, hitem]
        | some item =>
          have hpos : 0 < item.indent := by simpa [Frame.isIndented, hitem] using hindented.1
          obtain ⟨n, hn⟩ := Nat.exists_eq_add_one_of_ne_zero (Nat.ne_of_gt hpos)
          dsimp only
          rw [hn, skip_atMargin hc]
          simp [Frame.isIdle, hitem, Cursor.start, hend]
    rw [Frame.enterAll, henter]
    cases hidle : f.isIdle <;> simp [hidle, ih hindented.2]

/-- Such a line ends all quotes and lists if it begins a block that does not belong to them. -/
theorem frames_leave_atMargin (h : Nested o.frames) :
    (o.enter (c :: s)).2 = .start (c :: s) ∧
      (o.leave (o.frames.length - (o.enter (c :: s)).1)).finishList.frames = [] := by
  have henter : Frame.enterAll (.start (c :: s)) o.frames.reverse = _ :=
    enterAll_atMargin hc s fun f hf => h.indented f (List.mem_reverse.mp hf)
  rw [Outline.enter, henter]
  refine ⟨rfl, Outline.frames_finishList ?_⟩
  dsimp only
  by_cases hidle : ∃ l, o.frames = [.list l] ∧ l.item = none
  · obtain ⟨l, hframes, hitem⟩ := hidle
    have hone : (o.frames.reverse.takeWhile Frame.isIdle).length = o.frames.length := by
      simp [hframes, Frame.isIdle, hitem]
    rw [hone, Nat.sub_self]
    exact .inr ⟨l, hframes, hitem⟩
  · have hnone : o.frames.reverse.takeWhile Frame.isIdle = [] := by
      cases hfs : o.frames with
      | nil => rfl
      | cons f fs =>
        rw [hfs] at h
        cases hlast : fs.reverse with
        | nil =>
          have hnil : fs = [] := by simpa using hlast
          subst hnil
          cases f with
          | quote blocks => simp [Frame.isIdle]
          | list l =>
            have hitem : l.item ≠ none := fun hitem => hidle ⟨l, hfs, hitem⟩
            simp [Frame.isIdle, hitem]
        | cons g gs =>
          have hg : g.isIdle = false := h.solid g (List.mem_reverse.mp (by simp [hlast]))
          simp [hlast, hg]
    rw [hnone, List.length_nil, Nat.sub_zero]
    exact Outline.frames_leave rfl

end Margin

end Markweave.Markdown
