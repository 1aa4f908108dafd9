import Markweave.Proofs.Markdown.LineStart
import Markweave.Proofs.Markdown.Reads

namespace Markweave.Markdown

open Marker

variable {opts : Options} {o : Outline} {s : Text} {f : Fence} {indent : Nat} {info content : Text}

namespace Outline

@[simp]
theorem leaf_add (o : Outline) (b : Block) : (o.add b).leaf = o.leaf := by
  rw [add]
  split <;> rfl

@[simp]
theorem leaf_closeTop (o : Outline) : o.closeTop.leaf = o.leaf := by
  rw [closeTop]
  split
  · rfl
  · exact leaf_add _ _

@[simp]
theorem leaf_leave (n : Nat) (o : Outline) : (o.leave n).leaf = o.leaf := by
  fun_induction leave n o with
  | case1 => rfl
  | case2 => rfl
  | case3 o _ => exact leaf_closeTop o
  | case4 n o _ ih => rw [ih, leaf_closeTop]

@[simp]
theorem leaf_loosen (o : Outline) : o.loosen.leaf = o.leaf := by
  rw [loosen]
  split <;> rfl

@[simp]
theorem leaf_finishList (o : Outline) : o.finishList.leaf = o.leaf := by
  rw [finishList]
  split
  · split <;> simp
  · exact leaf_loosen o

@[simp]
theorem leaf_openItem (o : Outline) (m : ListMark) (indent : Nat) : (o.openItem m indent).leaf = o.leaf := by
  rw [openItem]
  split
  · split
    · rfl
    · exact leaf_finishList o
  · exact leaf_finishList o

@[simp]
theorem leaf_blankLine (o : Outline) : o.blankLine.leaf = o.leaf := by
  rw [blankLine]
  split
  · rfl
  · split <;> rfl
  · rfl

@[simp]
theorem leaf_closeLeaf (o : Outline) : o.closeLeaf.leaf = .none := by
  rw [closeLeaf]
  split
  · next h =>
    cases hleaf : o.leaf with
    | none => rfl
    | _ => simp [hleaf, Leaf.toBlock?] at h
  · exact leaf_add _ _

end Outline

namespace BlockReader

/-- What opening an item or a quote makes of an outline, and what stays true of it while more is opened. -/
structure Opening (P Q : Outline → Prop) : Prop where
  weaken {o : Outline} (h : Q o) : P o
  item {o : Outline} (h : P o) (m : ListMark) {indent : Nat} (hindent : 0 < indent) : Q (o.openItem m indent)
  quote {o : Outline} (h : P o) : Q { o.finishList with frames := .quote [] :: o.finishList.frames }
  add {o : Outline} (h : Q o) (b : Block) : Q (o.add b)
  emptyItem {o : Outline} (h : Q o) : Q { o with emptyItem := true }
  task {o : Outline} (h : Q o) (checked : Bool) : Q { o with task := some checked }

theorem indent_pos_of_listItem? {c place : Cursor} {m : ListMark} {indent : Nat}
    (h : listItem? c = some (m, indent, place)) : 0 < indent := by
  rw [listItem?] at h
  split at h
  · cases h
  · dsimp only at h
    split at h
    · cases h
    · split at h
      · cases h
      · split at h
        · obtain ⟨rfl, rfl, rfl⟩ := by simpa using h
          exact Nat.succ_pos _
        · split at h
          · obtain ⟨rfl, rfl, rfl⟩ := by simpa using h
            exact Nat.succ_pos _
          · obtain ⟨rfl, rfl, rfl⟩ := by simpa using h
            omega

/-- Nothing is opened, or a quote or an item is. -/
theorem Opening.openFrames {P Q : Outline → Prop} (hopen : Opening P Q) (opts : Options) (n : Nat) (h : P o)
    (c : Cursor) : BlockReader.openFrames opts n o c = (o, c, false) ∨ Q (openFrames opts n o c).1 := by
  induction n generalizing o c with
  | zero => exact .inl rfl
  | succ n ih =>
    have hmore : ∀ {o : Outline}, Q o → ∀ c, Q (BlockReader.openFrames opts n o c).1 := by
      intro o h c
      rcases ih (hopen.weaken h) c with heq | hq
      · rw [heq]
        exact h
      · exact hq
    rw [BlockReader.openFrames]
    split
    · exact .inl rfl
    · next missing mark _ _ =>
      split
      · next m indent content hfound =>
        have hitem := hopen.item h m (Nat.add_pos_right (4 - missing) (indent_pos_of_listItem? hfound))
        right
        dsimp only
        split
        · exact hopen.emptyItem hitem
        · split
          · exact hmore hitem _
          · split
            · exact hopen.emptyItem (hopen.add hitem _)
            · exact hmore (hopen.task hitem _) _
      · split
        · exact .inr (hmore (hopen.quote h) _)
        · exact .inl rfl

theorem opening_leaf (l : Leaf) : Opening (·.leaf = l) (·.leaf = l) where
  weaken h := h
  item h _ _ _ := (Outline.leaf_openItem _ _ _).trans h
  quote h := (Outline.leaf_finishList _).trans h
  add h _ := (Outline.leaf_add _ _).trans h
  emptyItem h := h
  task h _ := h

theorem leaf_openFrames (opts : Options) (n : Nat) (o : Outline) (c : Cursor) :
    (openFrames opts n o c).1.leaf = o.leaf := by
  rcases (opening_leaf o.leaf).openFrames opts n rfl c with heq | hleaf
  · rw [heq]
  · exact hleaf

end BlockReader

/-- A list between two items. -/
def Frame.isIdle : Frame → Bool
  | quote _ => false
  | list l => l.item.isNone

theorem Frame.isIdle_add (f : Frame) (b : Block) : (f.add b).isIdle = f.isIdle := by
  cases f with
  | quote blocks => rfl
  | list l =>
    rw [add]
    split
    · next h => simp [isIdle, h]
    · rfl

namespace Outline

theorem isIdle_add (o : Outline) (b : Block) : (o.add b).frames.map Frame.isIdle = o.frames.map Frame.isIdle := by
  rw [add]
  split
  · rfl
  · next h => simp [h, Frame.isIdle_add]

theorem isIdle_closeTop (o : Outline) : o.closeTop.frames.map Frame.isIdle = (o.frames.drop 1).map Frame.isIdle := by
  rw [closeTop]
  split
  · next h => simp [h]
  · next h =>
    rw [isIdle_add, h]
    rfl

/-- What is entered stays open; at most a list between two items comes on top of it. -/
theorem isIdle_leave (n : Nat) (o : Outline) : ∃ idle,
    (o.leave n).frames.map Frame.isIdle = idle ++ (o.frames.drop n).map Frame.isIdle := by
  fun_induction leave n o with
  | case1 o => exact ⟨[], rfl⟩
  | case2 o l below h => exact ⟨[l.closeItem.item.isNone], by simp [h, Frame.isIdle]⟩
  | case3 o _ => exact ⟨[], isIdle_closeTop o⟩
  | case4 n o hn ih =>
    obtain ⟨idle, hidle⟩ := ih
    have hdrop : (o.closeTop.frames.drop n).map Frame.isIdle = (o.frames.drop (n + 1)).map Frame.isIdle := by
      rw [List.map_drop, isIdle_closeTop, ← List.map_drop, List.drop_drop, Nat.add_comm]
    exact ⟨idle, by rw [hidle, hdrop]⟩

theorem isIdle_loosen (o : Outline) : o.loosen.frames.map Frame.isIdle = o.frames.map Frame.isIdle := by
  rw [loosen]
  split
  · rfl
  · dsimp only
    split
    · next h =>
      rw [h]
      split <;> rfl
    · rfl

/-- A quote or an item is open. -/
def Enclosed (o : Outline) : Prop := ∃ top ∈ o.frames, top.isIdle = false

theorem enclosed_iff : o.Enclosed ↔ false ∈ o.frames.map Frame.isIdle := by simp [Enclosed]

theorem Enclosed.add (h : o.Enclosed) (b : Block) : (o.add b).Enclosed := by
  rw [enclosed_iff] at h ⊢
  rwa [isIdle_add]

theorem enclosed_openItem (o : Outline) (m : ListMark) (indent : Nat) : (o.openItem m indent).Enclosed := by
  have hstart : ∀ o' : Outline, (o'.startList m indent).Enclosed := fun o' => ⟨_, List.mem_cons_self, rfl⟩
  rw [openItem]
  split
  · split
    · exact ⟨_, List.mem_cons_self, rfl⟩
    · exact hstart _
  · exact hstart _

/-- Where a list between two items is the only frame, it ends with a block that does not belong to it. -/
theorem not_enclosed_of_finishList (h : o.finishList.frames = []) : ¬o.Enclosed := by
  have hkept : ∀ o' : Outline, o'.loosen.frames = [] → o'.frames = [] := by
    intro o' hnil
    have hidle := o'.isIdle_loosen
    rwa [hnil, List.map_nil, eq_comm, List.map_eq_nil_iff] at hidle
  have hnone : o.frames = [] → ¬o.Enclosed := by
    rintro hnil ⟨top, hmem, _⟩
    rw [hnil] at hmem
    cases hmem
  rw [finishList] at h
  split at h
  · next l below hframes =>
    split at h
    · next hidle =>
      have hbelow := isIdle_closeTop o
      rw [hkept _ h, hframes, List.map_nil, List.drop_one, List.tail_cons, eq_comm, List.map_eq_nil_iff] at hbelow
      rw [enclosed_iff, hframes, hbelow]
      simp [Frame.isIdle, hidle]
    · exact hnone (hkept o h)
  · exact hnone (hkept o h)

end Outline

namespace BlockReader

theorem opening_enclosed : Opening (fun _ => True) Outline.Enclosed where
  weaken _ := trivial
  item _ m _ _ := Outline.enclosed_openItem _ m _
  quote _ := ⟨_, List.mem_cons_self, rfl⟩
  add h b := h.add b
  emptyItem h := h
  task h _ := h

end BlockReader

/-- Lists between two items have no marks on a line. -/
theorem Frame.enterAll_of_isIdle {c : Cursor} {fs : List Frame}
    (h : ∀ f ∈ fs.take (enterAll c fs).1, f.isIdle = true) : (enterAll c fs).2 = c := by
  induction fs generalizing c with
  | nil => rfl
  | cons f fs ih =>
    rw [enterAll] at h ⊢
    cases he : f.enter? c with
    | none => rfl
    | some inside =>
      rw [he] at h
      have hf := h f (by simp)
      have hsame : inside = c := by
        cases f with
        | quote blocks => cases hf
        | list l =>
          have hitem : l.item = none := by simpa [isIdle] using hf
          rw [enter?, hitem] at he
          exact (Option.some.inj he).symm
      subst hsame
      exact ih fun g hg => h g (List.mem_cons_of_mem _ hg)

/-- Where only lists between two items are left of the frames that a line enters, it is entered at its beginning. -/
theorem Outline.enter_of_not_enclosed (h : ¬(o.leave (o.frames.length - (o.enter s).1)).Enclosed) :
    (o.enter s).2 = .start s := by
  refine Frame.enterAll_of_isIdle ?_
  obtain ⟨idle, hidle⟩ := o.isIdle_leave (o.frames.length - (o.enter s).1)
  rw [enclosed_iff, hidle, List.mem_append, not_or, List.mem_map] at h
  intro f hf
  by_contra hsolid
  refine h.2 ⟨f, ?_, by simpa using hsolid⟩
  rw [List.take_reverse] at hf
  exact List.mem_reverse.mp hf

namespace BlockReader

/-- With less than four columns of spaces and tabs there are no tabs among them. -/
theorem skipFrom_cases {n column pending missing : Nat} {place : Cursor} (hn : n + column = 4)
    (h : Cursor.skipFrom n s column pending = (missing + 1, place)) :
    place.rest = s.dropWhile (· == ' ') ∧ (s.takeWhile (· == ' ')).length < n := by
  fun_induction Cursor.skipFrom n s column pending with
  | case1 n s column pending ih =>
    obtain ⟨hrest, hlength⟩ := ih (by omega) h
    exact ⟨by simpa using hrest, by simpa using hlength⟩
  | case2 n s column pending width used ih =>
    -- The tab reaches to the fourth column, so nothing is missing.
    have hused : used = n + 1 := by omega
    rw [hused, Nat.sub_self] at h
    rw [Cursor.skipFrom.eq_def] at h
    cases h
  | case3 n s column pending hspace htab =>
    obtain ⟨rfl, rfl⟩ := Prod.mk.inj h
    cases s with
    | nil => exact ⟨rfl, by simp⟩
    | cons c s =>
      have hc : c ≠ ' ' := fun he => hspace missing s rfl (by rw [he])
      exact ⟨by simp [hc], by simp [hc]⟩

theorem leaf_addHtml (o : Outline) (ending : RawHtml.BlockEnd) (lines : List HtmlLine) (indentation s : Text) :
    (addHtml o ending lines indentation s).1.leaf ≠ .fenced f indent info content := by
  rw [addHtml]
  dsimp only
  split
  · simp
  · simp

theorem leaf_startHeading (o : Outline) (level : HeadingLevel) (s : Text) :
    (startHeading o level s).1.leaf = o.leaf := by
  rw [startHeading]
  dsimp only
  split <;> exact o.leaf_add _

/-- Code in a fence begins empty, with a fence behind at most three spaces. -/
theorem startLeaf_fenced_cases {c : Cursor} (hnone : o.leaf = .none)
    (h : (startLeaf opts o c).1.leaf = .fenced f indent info content) :
    content = [] ∧ (startLeaf opts o c).1.frames = o.frames ∧ ∃ missing place behind,
      c.skip 4 = (missing + 1, place) ∧ fence? place.rest = some (f, behind) := by
  rw [startLeaf] at h
  split at h
  · cases h
  next missing place hmissing hskip =>
  obtain ⟨missing, rfl⟩ := Nat.exists_eq_succ_of_ne_zero hmissing
  dsimp only at h
  split at h
  · exact absurd h (leaf_addHtml _ _ _ _ _)
  next hhtml =>
  split at h
  · simp [hnone] at h
  next hrule =>
  split at h
  · simp [leaf_startHeading, hnone] at h
  next hheading =>
  split at h
  · next f' behind hfence =>
    have hstart : startLeaf opts o c = startFenced o f' (4 - (missing + 1)) behind := by
      simp only [startLeaf, hskip, hhtml, hrule, hheading, hfence]
    rw [hstart]
    obtain ⟨rfl, rfl, rfl, rfl⟩ := Leaf.fenced.inj h
    exact ⟨rfl, rfl, missing, place, behind, hskip, hfence⟩
  split at h
  · simp [hnone] at h
  · cases h

/-- A fence as it can stand in a text. -/
structure IsFence (f : Fence) : Prop where
  mark : f.mark = '`' ∨ f.mark = '~'
  length : 3 ≤ f.length

theorem IsFence.mark_ne (h : IsFence f) {c : Char} (hc : c ≠ '`' ∧ c ≠ '~') : f.mark ≠ c := by
  rcases h.mark with hmark | hmark
  · exact hmark ▸ hc.1.symm
  · exact hmark ▸ hc.2.symm

theorem isFence_of_fence? {behind : Text} (h : fence? s = some (f, behind)) : IsFence f := by
  obtain ⟨c, r, rfl, hc⟩ := fence?_head (t := s) (by rw [h]; rfl)
  rw [fence?] at h
  split at h
  · cases h
  next hlength =>
  split at h
  · obtain ⟨rfl, _⟩ := Prod.mk.inj (Option.some.inj h)
    exact ⟨hc, Nat.le_of_not_lt hlength⟩
  split at h
  · obtain ⟨rfl, _⟩ := Prod.mk.inj (Option.some.inj h)
    exact ⟨hc, Nat.le_of_not_lt hlength⟩
  · cases h

/-- A step begins code in a fence; if no frame is around, the line begins with the fence. -/
structure Begins (s : Text) (f : Fence) (content : Text) (after : Outline × Text) : Prop where
  empty : content = []
  fence : IsFence f
  starts : after.1.frames = [] → startsFence s = true

theorem begins_startBlock (hnone : o.leaf = .none)
    (h : (startBlock opts o s).1.leaf = .fenced f indent info content) : Begins s f content (startBlock opts o s) := by
  have hopened : openFrames opts s.length (o.leave (o.frames.length - (o.enter s).1)) (o.enter s).2 = _ ∨ _ :=
    opening_enclosed.openFrames opts s.length trivial (o.enter s).2
  have hleaf := leaf_openFrames opts s.length (o.leave (o.frames.length - (o.enter s).1)) (o.enter s).2
  have henter := o.enter_of_not_enclosed (s := s)
  rw [startBlock] at h ⊢
  dsimp only at h ⊢
  generalize openFrames opts s.length (o.leave (o.frames.length - (o.enter s).1)) (o.enter s).2 = opened
    at hopened hleaf h ⊢
  obtain ⟨inner, c, done⟩ := opened
  replace hleaf : inner.leaf = .none := hleaf.trans ((Outline.leaf_leave _ _).trans hnone)
  cases done with
  | true => cases hleaf.symm.trans h
  | false =>
    dsimp only at h ⊢
    cases hblank : dropBlankLine? c.rest with
    | some rest =>
      rw [hblank] at h
      cases (inner.leaf_blankLine.trans hleaf).symm.trans h
    | none =>
      rw [hblank] at h
      dsimp only at h ⊢
      have hinner : ({ inner.finishList with emptyItem := false } : Outline).leaf = .none := by simp [hleaf]
      obtain ⟨hcontent, hframes, missing, place, behind, hskip, hfence⟩ := startLeaf_fenced_cases hinner h
      refine ⟨hcontent, isFence_of_fence? hfence, ?_⟩
      intro hnil
      rw [hframes] at hnil
      have hopen : ¬inner.Enclosed := Outline.not_enclosed_of_finishList hnil
      obtain ⟨rfl, rfl⟩ : inner = _ ∧ c = _ := by simpa using hopened.resolve_right hopen
      rw [henter hopen] at hskip
      obtain ⟨hrest, hlength⟩ := skipFrom_cases (s := s) (n := 4) rfl hskip
      rw [startsFence, Bool.and_eq_true, decide_eq_true_eq, ← hrest, hfence]
      exact ⟨hlength, rfl⟩

theorem getLast?_unifyLine (line : Text) : (unifyLine line).getLast? = line.getLast? := by
  rw [unifyLine]
  split
  · next c t he =>
    rw [List.getLast?_eq_head?_reverse, List.getLast?_eq_head?_reverse, he, List.reverse_reverse]
    rfl
  · rfl

theorem getLast?_cutFullLine (h : (cutFullLine s).2 ≠ []) : (cutFullLine s).1.getLast? = some '\n' := by
  have hhead := List.head?_dropWhile_not (· != '\n') s
  rw [cutFullLine, List.span_eq_takeWhile_dropWhile] at h ⊢
  dsimp only at h ⊢
  split at h
  · next c r he =>
    rw [he] at hhead
    have hc : c = '\n' := by simpa using hhead
    rw [hc]
    exact List.getLast?_concat
  · exact absurd rfl h

/-- A line closes the code or is added to it. -/
theorem continueFenced_cases (o : Outline) (f : Fence) (indent : Nat) (info content : Text) (c : Cursor) :
    (∃ rest, continueFenced o f indent info content c = (o.closeLeaf, rest)) ∨
      ∃ line rest, continueFenced o f indent info content c =
        ({ o with leaf := .fenced f indent info (content ++ line) }, rest) ∧
          (rest ≠ [] → line.getLast? = some '\n') := by
  rw [continueFenced]
  dsimp only
  split
  · exact .inl ⟨_, rfl⟩
  · refine .inr ⟨_, _, by rw [List.append_assoc], ?_⟩
    intro hrest
    rw [List.getLast?_append, getLast?_unifyLine, getLast?_cutFullLine hrest]
    rfl

/-- A step adds a line to code in a fence. -/
structure GoesOn (o : Outline) (s : Text) (f : Fence) (indent : Nat) (info content : Text)
    (after : Outline × Text) : Prop where
  exists_line : ∃ before line, o.leaf = .fenced f indent info before ∧ content = before ++ line ∧
    (after.2 ≠ [] → line.getLast? = some '\n')
  frames : after.1.frames = o.frames

theorem begins_closeLeaf (h : (startBlock opts o.closeLeaf s).1.leaf = .fenced f indent info content) :
    Begins s f content (startBlock opts o.closeLeaf s) :=
  begins_startBlock o.leaf_closeLeaf h

theorem begins_continueParagraph {task : Option Bool} {text : Text} {lines : Nat}
    (h : (continueParagraph opts o task text lines s).1.leaf = .fenced f indent info content) :
    Begins s f content (continueParagraph opts o task text lines s) := by
  revert h
  rw [continueParagraph]
  dsimp only
  split
  · next htable =>
    obtain ⟨⟨alignments, head, rfl⟩, _⟩ := table?_cases htable
    exact fun h => by cases h
  split
  · exact fun h => by simp at h
  split
  · exact begins_closeLeaf
  · exact fun h => by cases h

theorem begins_continueIndented {text blanks : Text} {c : Cursor}
    (h : (continueIndented opts o text blanks c s).1.leaf = .fenced f indent info content) :
    Begins s f content (continueIndented opts o text blanks c s) := by
  revert h
  rw [continueIndented]
  dsimp only
  split
  · exact begins_closeLeaf
  · split <;> exact fun h => by cases h

theorem begins_continueHtml {ending : RawHtml.BlockEnd} {lines : List HtmlLine} {c : Cursor}
    (h : (continueHtml opts o ending lines c s).1.leaf = .fenced f indent info content) :
    Begins s f content (continueHtml opts o ending lines c s) := by
  revert h
  rw [continueHtml]
  split
  · exact begins_closeLeaf
  · exact fun h => absurd h (leaf_addHtml _ _ _ _ _)

theorem begins_continueTable {alignments : List Alignment} {head : List Text} {rows : List (List Text)} {c : Cursor}
    (h : (continueTable opts o alignments head rows c s).1.leaf = .fenced f indent info content) :
    Begins s f content (continueTable opts o alignments head rows c s) := by
  revert h
  rw [continueTable]
  dsimp only
  split
  · exact begins_closeLeaf
  · exact fun h => by cases h

/-- Where code in a fence stands after a step, a line was added to it or it was begun. -/
theorem step_fenced_cases (h : (step opts o s).1.leaf = .fenced f indent info content) :
    GoesOn o s f indent info content (step opts o s) ∨ Begins s f content (step opts o s) := by
  rw [step] at h ⊢
  cases hleaf : o.leaf with
  | none =>
    rw [hleaf] at h
    exact .inr (begins_startBlock hleaf h)
  | paragraph task text lines =>
    rw [hleaf] at h
    exact .inr (begins_continueParagraph h)
  | fenced f' indent' info' before =>
    rw [hleaf] at h
    cases hc : o.enterAll? s with
    | none =>
      rw [hc] at h
      exact .inr (begins_closeLeaf h)
    | some c =>
      rw [hc] at h
      dsimp only at h ⊢
      rcases continueFenced_cases o f' indent' info' before c with ⟨rest, heq⟩ | ⟨line, rest, heq, hlast⟩
      · rw [heq] at h
        cases o.leaf_closeLeaf.symm.trans h
      · rw [heq] at h ⊢
        obtain ⟨rfl, rfl, rfl, rfl⟩ := Leaf.fenced.inj h
        exact .inl ⟨⟨before, line, hleaf, rfl, hlast⟩, rfl⟩
  | indented text blanks =>
    rw [hleaf] at h
    cases hc : o.enterAll? s with
    | none =>
      rw [hc] at h
      exact .inr (begins_closeLeaf h)
    | some c =>
      rw [hc] at h
      exact .inr (begins_continueIndented h)
  | html ending lines =>
    rw [hleaf] at h
    cases hc : o.enterAll? s with
    | none =>
      rw [hc] at h
      exact .inr (begins_closeLeaf h)
    | some c =>
      rw [hc] at h
      exact .inr (begins_continueHtml h)
  | table alignments head rows =>
    rw [hleaf] at h
    cases hc : o.enterAll? s with
    | none =>
      rw [hc] at h
      exact .inr (begins_closeLeaf h)
    | some c =>
      rw [hc] at h
      exact .inr (begins_continueTable h)

/-- Code in a fence has whole lines only. -/
def Orderly (o : Outline) : Prop :=
  ∀ f indent info content, o.leaf = .fenced f indent info content →
    IsFence f ∧ (content = [] ∨ content.getLast? = some '\n')

theorem orderly_of_leaf (hleaf : o.leaf = .fenced f indent info content) (hfence : IsFence f)
    (hcontent : content.getLast? = some '\n') : Orderly o := by
  intro f' indent' info' content' hleaf'
  obtain ⟨rfl, rfl, rfl, rfl⟩ := Leaf.fenced.inj (hleaf.symm.trans hleaf')
  exact ⟨hfence, .inr hcontent⟩

theorem Orderly.step (h : Orderly o) (hrest : (step opts o s).2 ≠ []) : Orderly (step opts o s).1 := by
  intro f indent info content hleaf
  rcases step_fenced_cases hleaf with ⟨⟨before, line, hbefore, rfl, hlast⟩, _⟩ | ⟨rfl, hfence, _⟩
  · refine ⟨(h f indent info before hbefore).1, .inr ?_⟩
    rw [List.getLast?_append, hlast hrest]
    rfl
  · exact ⟨hfence, .inl rfl⟩

theorem Reads.orderly {o' : Outline} {s' : Text} (h : Reads opts o s o' s') (hrest : s' ≠ []) (ho : Orderly o) :
    Orderly o' := by
  induction h with
  | done => exact ho
  | @step o _ _ c x s t _ hs first more ih =>
    have hne : t ≠ [] := fun hnil => hrest (List.suffix_nil.mp (hnil ▸ more.suffix))
    have hstep := ho.step (show (BlockReader.step opts o s).2 ≠ [] by rwa [first])
    rw [first] at hstep
    exact ih hrest hstep

end BlockReader
end Markweave.Markdown
