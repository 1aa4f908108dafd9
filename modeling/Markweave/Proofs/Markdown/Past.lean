import Markweave.Markdown.BlockReader

namespace Markweave.Markdown

/-- An outline with blocks that were finished before all of its own. -/
def Outline.atop (o : Outline) (past : List Block) : Outline := { o with blocks := o.blocks ++ past }

/-- What comes of an outline, over blocks that were finished before. -/
def atopPast {α : Type} (past : List Block) (r : Outline × α) : Outline × α := (r.1.atop past, r.2)

namespace Outline

variable {past : List Block}

theorem atop_nil (o : Outline) : o.atop [] = o := by
  rw [atop, List.append_nil]

theorem add_atop (o : Outline) (b : Block) : (o.atop past).add b = (o.add b).atop past := by
  obtain ⟨frames, blocks, leaf, definitions, lastBlank, emptyItem, task⟩ := o
  cases frames <;> rfl

theorem closeTop_atop (o : Outline) : (o.atop past).closeTop = o.closeTop.atop past := by
  obtain ⟨frames, blocks, leaf, definitions, lastBlank, emptyItem, task⟩ := o
  cases frames with
  | nil => rfl
  | cons top below => exact add_atop ⟨below, blocks, leaf, definitions, lastBlank, emptyItem, task⟩ top.toBlock

theorem leave_atop (n : Nat) (o : Outline) : (o.atop past).leave n = (o.leave n).atop past := by
  induction n generalizing o with
  | zero => rfl
  | succ n ih =>
    cases n with
    | zero =>
      obtain ⟨frames, blocks, leaf, definitions, lastBlank, emptyItem, task⟩ := o
      match frames with
      | [] => rfl
      | .list l :: below => rfl
      | .quote bs :: below =>
        exact closeTop_atop ⟨.quote bs :: below, blocks, leaf, definitions, lastBlank, emptyItem, task⟩
    | succ n => exact (congrArg (leave (n + 1)) o.closeTop_atop).trans (ih o.closeTop)

theorem closeLeaf_atop (o : Outline) : (o.atop past).closeLeaf = o.closeLeaf.atop past := by
  obtain ⟨frames, blocks, leaf, definitions, lastBlank, emptyItem, task⟩ := o
  simp only [closeLeaf, atop]
  cases leaf.toBlock? with
  | none => rfl
  | some b => exact add_atop ⟨frames, blocks, .none, definitions, lastBlank || leaf.endsBlank, emptyItem, task⟩ b

theorem loosen_atop (o : Outline) : (o.atop past).loosen = o.loosen.atop past := by
  obtain ⟨frames, blocks, leaf, definitions, lastBlank, emptyItem, task⟩ := o
  cases lastBlank <;> rfl

theorem finishList_atop (o : Outline) : (o.atop past).finishList = o.finishList.atop past := by
  obtain ⟨frames, blocks, leaf, definitions, lastBlank, emptyItem, task⟩ := o
  match frames with
  | [] => exact loosen_atop ⟨[], blocks, leaf, definitions, lastBlank, emptyItem, task⟩
  | .quote bs :: below =>
    exact loosen_atop ⟨.quote bs :: below, blocks, leaf, definitions, lastBlank, emptyItem, task⟩
  | .list l :: below =>
    let o : Outline := ⟨.list l :: below, blocks, leaf, definitions, lastBlank, emptyItem, task⟩
    have hclose : (o.atop past).closeTop = _ := o.closeTop_atop
    have hkeep : (o.atop past).loosen = _ := o.loosen_atop
    simp only [finishList, atop] at hclose hkeep ⊢
    split
    · rw [hclose]
      exact loosen_atop _
    · exact hkeep

theorem openItem_atop (o : Outline) (m : Marker.ListMark) (indent : Nat) :
    (o.atop past).openItem m indent = (o.openItem m indent).atop past := by
  have hnew : (o.atop past).finishList.startList m indent = (o.finishList.startList m indent).atop past :=
    congrArg (startList · m indent) o.finishList_atop
  obtain ⟨frames, blocks, leaf, definitions, lastBlank, emptyItem, task⟩ := o
  match frames with
  | [] => exact hnew
  | .quote bs :: below => exact hnew
  | .list l :: below =>
    simp only [openItem, atop] at hnew ⊢
    split
    · rfl
    · exact hnew

theorem blankLine_atop (o : Outline) : (o.atop past).blankLine = o.blankLine.atop past := by
  obtain ⟨frames, blocks, leaf, definitions, lastBlank, emptyItem, task⟩ := o
  match frames with
  | [] => rfl
  | .quote bs :: below => rfl
  | .list l :: below => cases emptyItem <;> rfl

end Outline

namespace BlockReader

open Marker

variable {opts : Options} {past : List Block}

theorem endsParagraph_atop (o : Outline) : endsParagraph opts (o.atop past) = endsParagraph opts o := rfl

theorem definition?_atop (o : Outline) : definition? opts (o.atop past) = definition? opts o := rfl

theorem table?_atop (o : Outline) : table? opts (o.atop past) = table? opts o := rfl

theorem openFrames_atop (n : Nat) (o : Outline) (c : Cursor) :
    openFrames opts n (o.atop past) c = atopPast past (openFrames opts n o c) := by
  induction n generalizing o c with
  | zero => rfl
  | succ n ih =>
    simp only [openFrames, Outline.openItem_atop, Outline.finishList_atop]
    split
    · rfl
    · next missing mark _ hskip =>
      cases listItem? mark with
      | some found =>
        obtain ⟨m, indent, content⟩ := found
        dsimp only
        cases dropBlankLine? content.rest with
        | some rest => rfl
        | none =>
          dsimp only
          cases if opts.taskLists = true then taskBox? content else none with
          | none => exact ih _ _
          | some found =>
            obtain ⟨checked, behind⟩ := found
            dsimp only
            cases dropBlankLine? behind.rest with
            | some rest => rw [Outline.add_atop]; rfl
            | none => exact ih { o.openItem m (4 - missing + indent) with task := some checked } behind
      | none =>
        cases Frame.quoteMark? c with
        | some inside => exact ih { o.finishList with frames := .quote [] :: o.finishList.frames } inside
        | none => rfl

theorem addHtml_atop (o : Outline) (ending : RawHtml.BlockEnd) (lines : List HtmlLine) (indentation s : Text) :
    addHtml (o.atop past) ending lines indentation s = atopPast past (addHtml o ending lines indentation s) := by
  let q : Outline := { o with leaf := .html ending (⟨indentation, unifyLine (cutFullLine s).1⟩ :: lines) }
  have hclose : (q.atop past).closeLeaf = _ := q.closeLeaf_atop
  simp only [addHtml, Outline.atop] at hclose ⊢
  split
  · rw [hclose]
    rfl
  · rfl

theorem startHeading_atop (o : Outline) (level : HeadingLevel) (s : Text) :
    startHeading (o.atop past) level s = atopPast past (startHeading o level s) := by
  simp only [startHeading, Outline.add_atop]
  split <;> rfl

theorem startLeaf_atop (o : Outline) (c : Cursor) :
    startLeaf opts (o.atop past) c = atopPast past (startLeaf opts o c) := by
  simp only [startLeaf, addHtml_atop, Outline.add_atop, startHeading_atop, definition?_atop]
  split
  · rfl
  · next missing place _ hskip =>
    cases RawHtml.blockStart? place.rest with
    | some ending => rfl
    | none =>
      cases thematicBreak? place.rest with
      | some rest => rfl
      | none =>
        cases headingLevel? place.rest with
        | some level => rfl
        | none =>
          cases fence? place.rest with
          | some found => rfl
          | none =>
            cases definition? opts o place.rest with
            | some found => rfl
            | none => rfl

theorem startBlock_atop (o : Outline) (s : Text) :
    startBlock opts (o.atop past) s = atopPast past (startBlock opts o s) := by
  have henter : (o.atop past).enter s = o.enter s := rfl
  have hframes : (o.atop past).frames = o.frames := rfl
  simp only [startBlock, henter, hframes, Outline.leave_atop, openFrames_atop, atopPast]
  generalize openFrames opts s.length (o.leave (o.frames.length - (o.enter s).1)) (o.enter s).2 = opened
  obtain ⟨inner, c, done⟩ := opened
  cases done with
  | true => rfl
  | false =>
    dsimp only
    cases dropBlankLine? c.rest with
    | some rest => rw [Outline.blankLine_atop]
    | none =>
      rw [Outline.finishList_atop]
      exact startLeaf_atop { inner.finishList with emptyItem := false } c

theorem startBlock_closeLeaf_atop (o : Outline) (s : Text) :
    startBlock opts (o.atop past).closeLeaf s = atopPast past (startBlock opts o.closeLeaf s) := by
  rw [Outline.closeLeaf_atop, startBlock_atop]

theorem continueParagraph_atop (o : Outline) (task : Option Bool) (content : Text) (lines : Nat) (s : Text) :
    continueParagraph opts (o.atop past) task content lines s =
      atopPast past (continueParagraph opts o task content lines s) := by
  have henter : (o.atop past).enter s = o.enter s := rfl
  have hframes : (o.atop past).frames = o.frames := rfl
  let q : Outline := { o with leaf := .none }
  have hadd : ∀ b, (q.atop past).add b = (q.add b).atop past := q.add_atop
  simp only [continueParagraph, table?_atop, henter, hframes, endsParagraph_atop, startBlock_closeLeaf_atop]
  cases table? opts o content lines s with
  | some found => rfl
  | none =>
    dsimp only
    split
    · exact congrArg (·, _) (hadd _)
    · split <;> rfl

theorem continueFenced_atop (o : Outline) (f : Fence) (indent : Nat) (info content : Text) (c : Cursor) :
    continueFenced (o.atop past) f indent info content c =
      atopPast past (continueFenced o f indent info content c) := by
  simp only [continueFenced, Outline.closeLeaf_atop]
  split <;> rfl

theorem continueIndented_atop (o : Outline) (content blanks : Text) (c : Cursor) (s : Text) :
    continueIndented opts (o.atop past) content blanks c s =
      atopPast past (continueIndented opts o content blanks c s) := by
  simp only [continueIndented, startBlock_closeLeaf_atop]
  split
  · rfl
  · split <;> rfl

theorem continueHtml_atop (o : Outline) (ending : RawHtml.BlockEnd) (lines : List HtmlLine) (c : Cursor)
    (s : Text) :
    continueHtml opts (o.atop past) ending lines c s = atopPast past (continueHtml opts o ending lines c s) := by
  simp only [continueHtml, startBlock_closeLeaf_atop, addHtml_atop]
  split <;> rfl

theorem continueTable_atop (o : Outline) (alignments : List Alignment) (head : List Text)
    (rows : List (List Text)) (c : Cursor) (s : Text) :
    continueTable opts (o.atop past) alignments head rows c s =
      atopPast past (continueTable opts o alignments head rows c s) := by
  simp only [continueTable, startBlock_closeLeaf_atop]
  split <;> rfl

/-- What is past stays as it is, and the reader goes on as if it were not there. -/
theorem step_atop (o : Outline) (s : Text) : step opts (o.atop past) s = atopPast past (step opts o s) := by
  have hleaf : (o.atop past).leaf = o.leaf := rfl
  have henter : (o.atop past).enterAll? s = o.enterAll? s := rfl
  rw [step, step, hleaf, henter]
  cases o.leaf with
  | none => exact startBlock_atop o s
  | paragraph task content lines => exact continueParagraph_atop o task content lines s
  | fenced f indent info content =>
    cases o.enterAll? s with
    | none => exact startBlock_closeLeaf_atop o s
    | some c => exact continueFenced_atop o f indent info content c
  | indented content blanks =>
    cases o.enterAll? s with
    | none => exact startBlock_closeLeaf_atop o s
    | some c => exact continueIndented_atop o content blanks c s
  | html ending lines =>
    cases o.enterAll? s with
    | none => exact startBlock_closeLeaf_atop o s
    | some c => exact continueHtml_atop o ending lines c s
  | table alignments head rows =>
    cases o.enterAll? s with
    | none => exact startBlock_closeLeaf_atop o s
    | some c => exact continueTable_atop o alignments head rows c s

end BlockReader
end Markweave.Markdown
