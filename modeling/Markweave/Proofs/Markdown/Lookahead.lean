import Markweave.Proofs.Markdown.LinkAppend

namespace Markweave.Markdown

open Marker

variable {opts : Options} {o : Outline} {s w : Text}

/-- A line that opens fenced code where no quote or list is around. -/
def startsFence (s : Text) : Bool :=
  (s.takeWhile (· == ' ')).length < 4 && (fence? (s.dropWhile (· == ' '))).isSome

/-- A fence begins on this line or on one below. -/
inductive Barred : Text → Prop
  | fence {s : Text} (hs : startsFence s = true) (hline : '\n' ∈ s) : Barred s
  | above {s : Text} (below : Barred (cutLine s).2.2) : Barred s

/-- A fence begins below the line. -/
def AboveFence (s : Text) : Prop := Barred (cutLine s).2.2

/-- A label may begin so: every bracket is escaped, and no escape is left open. -/
def isLabelText : Text → Bool
  | [] => true
  | ['\\'] => false
  | '\\' :: _ :: s => isLabelText s
  | c :: s => c != '[' && c != ']' && isLabelText s

/-- A label that begins here has no line end escaped above a line that begins with a fence. -/
def LabelAboveFence (s : Text) : Prop :=
  ∀ v c w, s = v ++ '\\' :: c :: w → isLabelText v = true → isLineEnd c = true → startsFence w = false

/-- Behind no bracket a label may go on over an escaped line end to a line that begins with a fence. -/
def NoEscapedFence (s : Text) : Prop := ∀ u t, s = u ++ '[' :: t → LabelAboveFence t

theorem isLabelText_cons {c : Char} (hc : c ≠ '[' ∧ c ≠ ']' ∧ c ≠ '\\') (s : Text) :
    isLabelText (c :: s) = isLabelText s := by
  rw [isLabelText]
  · simp [hc]
  · simp [hc]
  · simp [hc]

/-- A label that goes on behind `x` is as above. -/
theorem LabelAboveFence.behind {x r : Text} (h : LabelAboveFence (x ++ r))
    (hx : ∀ v, isLabelText (x ++ v) = isLabelText v) : LabelAboveFence r := by
  rintro v c w rfl hv hc
  exact h (x ++ v) c w (by simp) ((hx v).trans hv) hc

theorem NoEscapedFence.suffix {t : Text} (h : NoEscapedFence s) (ht : t <:+ s) : NoEscapedFence t := by
  obtain ⟨x, rfl⟩ := ht
  rintro u t rfl
  exact h (x ++ u) t (by simp)

namespace Barred

theorem newline_mem (h : Barred s) : '\n' ∈ s := by
  induction h with
  | fence _ hline => exact hline
  | @above s _ ih => exact (cutLine_suffix s).subset ih

theorem cases (h : Barred s) : startsFence s = true ∨ AboveFence s := by
  cases h with
  | fence hs _ => exact .inl hs
  | above below => exact .inr below

end Barred

namespace AboveFence

theorem newline_mem (h : AboveFence s) : '\n' ∈ s := (cutLine_suffix s).subset (Barred.newline_mem h)

theorem sameLine_iff {t : Text} (h : SameLine s t) : AboveFence s ↔ AboveFence t := by
  rw [AboveFence, h.cutLine_eq, AboveFence]

end AboveFence

/-- A line ends with one character or with two. -/
theorem cutLine_of_isLineEnd {c : Char} (hc : isLineEnd c = true) (t : Text) :
    (cutLine (c :: t)).2.2 = t ∨ (∃ r, t = '\n' :: r) ∧ (cutLine (c :: t)).2.2 = (cutLine t).2.2 := by
  rw [cutLine, List.span_eq_takeWhile_dropWhile, List.dropWhile_cons, if_neg (by simp [hc])]
  dsimp only
  split
  · next he =>
    obtain ⟨rfl, rfl⟩ := List.cons.inj he
    exact .inr ⟨⟨_, rfl⟩, rfl⟩
  · next he =>
    obtain ⟨rfl, rfl⟩ := List.cons.inj he
    exact .inl rfl
  · next he => cases he

/-- Past an escaped character there is still a fence below. -/
theorem AboveFence.behind_escape {c : Char} {t : Text} (hb : AboveFence ('\\' :: c :: t))
    (he : LabelAboveFence ('\\' :: c :: t)) : AboveFence t := by
  rw [AboveFence, (SameLine.tail (c := '\\') rfl (c :: t)).cutLine_eq] at hb
  rw [AboveFence]
  cases hc : isLineEnd c with
  | false => rwa [(SameLine.tail hc t).cutLine_eq] at hb
  | true =>
    rcases cutLine_of_isLineEnd hc t with hbelow | ⟨_, hbelow⟩
    · rw [hbelow] at hb
      have hfence := he [] c t rfl rfl hc
      exact hb.cases.resolve_left (by simp [hfence])
    · rwa [hbelow] at hb

/-- A place behind at most three spaces of a line that begins with a fence. -/
structure Cursor.AtFence (c : Cursor) : Prop where
  pending : c.pending = 0
  starts : startsFence c.rest = true

theorem fence?_head {t : Text} (h : (fence? t).isSome = true) : ∃ c r, t = c :: r ∧ (c = '`' ∨ c = '~') := by
  cases t with
  | nil => cases h
  | cons c r =>
    refine ⟨c, r, rfl, ?_⟩
    rw [fence?] at h
    split at h
    · cases h
    · split at h
      · next hc => exact .inr (by simpa using hc)
      · split at h
        · next hc =>
          left
          rw [Bool.and_eq_true, decide_eq_true_eq] at hc
          exact Char.ext (UInt32.toNat_inj.mp hc.1)
        · cases h

theorem startsFence_newline (t : Text) : startsFence ('\n' :: t) = false := by
  cases hs : startsFence ('\n' :: t) with
  | false => rfl
  | true =>
    rw [startsFence, Bool.and_eq_true] at hs
    obtain ⟨c, r, he, hc⟩ := fence?_head hs.2
    obtain ⟨rfl, _⟩ := List.cons.inj he
    exact absurd hc (by decide)

theorem startsFence_append (h : '\n' ∈ s) (w : Text) : startsFence (s ++ w) = startsFence s := by
  rw [startsFence, startsFence, takeWhile_append_of_newline rfl h, dropWhile_append_of_newline rfl h,
    fence?_append (newline_mem_dropWhile rfl h), Option.isSome_map]

/-- Such a line begins with a space or with the fence. -/
theorem startsFence_cases (hs : startsFence s = true) :
    (∃ t, s = ' ' :: t ∧ startsFence t = true) ∨ (fence? s).isSome = true := by
  rw [startsFence, Bool.and_eq_true, decide_eq_true_eq] at hs
  match s with
  | [] => exact absurd hs.2 Bool.false_ne_true
  | c :: t =>
    by_cases hc : c = ' '
    · subst hc
      left
      refine ⟨t, rfl, ?_⟩
      rw [startsFence, Bool.and_eq_true, decide_eq_true_eq]
      have hlength := hs.1
      rw [List.takeWhile_cons, if_pos (beq_self_eq_true _), List.length_cons] at hlength
      exact ⟨by omega, hs.2⟩
    · right
      have hdrop : (c :: t).dropWhile (· == ' ') = c :: t := by simp [hc]
      rw [hdrop] at hs
      exact hs.2

namespace Cursor.AtFence

variable {c : Cursor}

theorem start (hs : startsFence s = true) : (Cursor.start s).AtFence := ⟨rfl, hs⟩

theorem skipFrom (n : Nat) (hs : startsFence s = true) (column : Nat) :
    (Cursor.skipFrom n s column 0).2.AtFence ∧ ((s.takeWhile (· == ' ')).length < n →
      (Cursor.skipFrom n s column 0).1 ≠ 0 ∧ (fence? (Cursor.skipFrom n s column 0).2.rest).isSome = true) := by
  induction n generalizing s column with
  | zero =>
    rw [Cursor.skipFrom]
    · exact ⟨⟨rfl, hs⟩, fun h => absurd h (Nat.not_lt_zero _)⟩
    · intro m t h
      cases h
    · intro m t h
      cases h
  | succ n ih =>
    rcases startsFence_cases hs with ⟨t, rfl, ht⟩ | hfence
    · obtain ⟨hat, hmissing⟩ := ih ht (column + 1)
      refine ⟨hat, fun hlength => hmissing ?_⟩
      rw [List.takeWhile_cons, if_pos (beq_self_eq_true _), List.length_cons] at hlength
      omega
    · have hskip : Cursor.skipFrom (n + 1) s column 0 = (n + 1, ⟨s, column, 0⟩) := by
        obtain ⟨d, r, rfl, hd⟩ := fence?_head hfence
        rw [Cursor.skipFrom]
        · rintro m t hm he
          obtain ⟨rfl, _⟩ := List.cons.inj he
          exact absurd hd (by decide)
        · rintro m t hm he
          obtain ⟨rfl, _⟩ := List.cons.inj he
          exact absurd hd (by decide)
      rw [hskip]
      exact ⟨⟨rfl, hs⟩, fun _ => ⟨Nat.succ_ne_zero n, hfence⟩⟩

theorem skip (h : c.AtFence) (n : Nat) : (c.skip n).2.AtFence ∧ ((c.rest.takeWhile (· == ' ')).length < n →
    (c.skip n).1 ≠ 0 ∧ (fence? (c.skip n).2.rest).isSome = true) := by
  have hskip : c.skip n = Cursor.skipFrom n c.rest c.column 0 := by
    rw [Cursor.skip, h.pending, Nat.zero_min, Nat.sub_zero]
  rw [hskip]
  exact skipFrom n h.starts c.column

/-- Behind the indentation that a line may have stands the fence. -/
theorem skip_four (h : c.AtFence) : ∃ missing place, c.skip 4 = (missing + 1, place) ∧
    (fence? place.rest).isSome = true := by
  have hlength := h.starts
  rw [startsFence, Bool.and_eq_true, decide_eq_true_eq] at hlength
  obtain ⟨hmissing, hfence⟩ := (h.skip 4).2 hlength.1
  obtain ⟨missing, hsucc⟩ := Nat.exists_eq_succ_of_ne_zero hmissing
  exact ⟨missing, _, Prod.ext hsucc rfl, hfence⟩

theorem head_ne (h : c.AtFence) : ∃ d r, c.rest = d :: r ∧ (d = ' ' ∨ d = '`' ∨ d = '~') := by
  rcases startsFence_cases h.starts with ⟨t, ht, _⟩ | hfence
  · exact ⟨' ', t, ht, .inl rfl⟩
  · obtain ⟨d, r, hd, hmark⟩ := fence?_head hfence
    exact ⟨d, r, hd, .inr hmark⟩

theorem skipAll (h : c.AtFence) : (fence? c.skipAll.rest).isSome = true := by
  have hstarts := h.starts
  change (fence? (c.rest.dropWhile fun x => x == ' ' || x == '\t')).isSome = true
  generalize c.rest = s at hstarts
  induction s with
  | nil => exact absurd hstarts (by decide)
  | cons d r ih =>
    rcases startsFence_cases hstarts with ⟨t, ht, hfence⟩ | hfence
    · obtain ⟨rfl, rfl⟩ := List.cons.inj ht
      exact ih hfence
    · obtain ⟨d', r', hd, hmark⟩ := fence?_head hfence
      obtain ⟨rfl, rfl⟩ := List.cons.inj hd
      rw [List.dropWhile_cons, if_neg (by rcases hmark with rfl | rfl <;> decide)]
      exact hfence

theorem quoteMark? (h : c.AtFence) : Frame.quoteMark? c = none := by
  obtain ⟨d, r, hd, hmark⟩ := (h.skip 3).1.head_ne
  rw [Frame.quoteMark?]
  split
  next place hskip =>
    rw [hskip] at hd
    split
    · next t hplace =>
      rw [hplace] at hd
      obtain ⟨rfl, _⟩ := List.cons.inj hd
      exact absurd hmark (by decide)
    · rfl

/-- A quote does not go on with a fence, and a list goes on with it only by its indentation. -/
theorem enter? {f : Frame} {inside : Cursor} (h : c.AtFence) (he : f.enter? c = some inside) : inside.AtFence := by
  cases f with
  | quote blocks =>
    rw [Frame.enter?, h.quoteMark?] at he
    cases he
  | list l =>
    rw [Frame.enter?] at he
    split at he
    · obtain rfl := Option.some.inj he
      exact h
    · next item _ =>
      have hat := (h.skip item.indent).1
      split at he
      · next hskip =>
        obtain rfl := Option.some.inj he
        rwa [hskip] at hat
      · next hskip =>
        split at he
        · obtain rfl := Option.some.inj he
          rwa [hskip] at hat
        · cases he

theorem enterAll (h : c.AtFence) (fs : List Frame) : (Frame.enterAll c fs).2.AtFence := by
  induction fs generalizing c with
  | nil => exact h
  | cons f fs ih =>
    rw [Frame.enterAll]
    cases he : f.enter? c with
    | none => exact h
    | some inside => exact ih (h.enter? he)

end Cursor.AtFence

theorem atFence_enter (hs : startsFence s = true) (o : Outline) : (o.enter s).2.AtFence :=
  Cursor.AtFence.enterAll (.start hs) _

namespace BlockReader

theorem endsText_of_fence? {entered anyNumber : Bool} (h : (fence? s).isSome = true) :
    endsText entered anyNumber s = true := by
  simp [endsText, h]

theorem isHeavyTable_append (h : '\n' ∈ s) (hbelow : '\n' ∈ (cutLine s).2.2) (w : Text) :
    isHeavyTable opts o (s ++ w) = isHeavyTable opts o s := by
  obtain ⟨happend, hline⟩ := o.enterAll?_append hbelow w
  rw [isHeavyTable, isHeavyTable, head?_append h, cutLine_append h]
  dsimp only
  rw [happend]
  cases he : o.enterAll? (cutLine s).2.2 with
  | none => rfl
  | some inside =>
    have hdashes := Table.dashLine?_append ((hline inside he).newline_mem hbelow) w
    rw [Option.map_some, Option.bind_some, hdashes, Option.any_map]
    rfl

theorem endsText_append (h : '\n' ∈ s) (hnext : '\n' ∈ (cutLine s).2.2 ∨ (fence? s).isSome = true)
    (entered anyNumber : Bool) (w : Text) : endsText entered anyNumber (s ++ w) = endsText entered anyNumber s := by
  have hfence : (fence? (s ++ w)).isSome = (fence? s).isSome := by rw [fence?_append h, Option.isSome_map]
  rcases hnext with hbelow | hopens
  · rw [endsText, endsText, atLineEnd_append h, thematicBreak?_append h, headingLevel?_append h, hfence,
      head?_append h, interruptsAsItem_append h hbelow, RawHtml.opensComment_append h, Option.isSome_map]
  · rw [endsText_of_fence? hopens, endsText_of_fence? (hfence.trans hopens)]

theorem endsParagraph_append (h : '\n' ∈ s) (hnext : '\n' ∈ (cutLine s).2.2 ∨ (fence? s).isSome = true)
    (entered : Bool) (w : Text) : endsParagraph opts o entered (s ++ w) = endsParagraph opts o entered s := by
  rw [endsParagraph, endsParagraph, endsText_append h hnext]
  rcases hnext with hbelow | hopens
  · rw [isHeavyTable_append h hbelow]
  · rw [endsText_of_fence? hopens, Bool.true_or, Bool.true_or]

theorem behindMargin_continueLine? {r : Text} (h : continueLine? opts o s = some r) : BehindMargin s r := by
  have hmargin := (o.behindMargin_enter s).trans (Cursor.behindMargin_skip (o.enter s).2 4)
  rw [continueLine?] at h
  dsimp only at h
  split at h
  · next hskip =>
    obtain rfl := Option.some.inj h
    rwa [hskip] at hmargin
  · next hskip =>
    split at h
    · cases h
    · obtain rfl := Option.some.inj h
      rwa [hskip] at hmargin

theorem continueLine?_append (opts : Options) (o : Outline) (h : '\n' ∈ s) (hbelow : '\n' ∈ (cutLine s).2.2)
    (w : Text) :
    continueLine? opts o (s ++ w) = (continueLine? opts o s).map (· ++ w) ∧
      ∀ r, continueLine? opts o s = some r → SameLine s r := by
  obtain ⟨n, inside, henter, happend, hinside⟩ := o.exists_enter h w
  have hmem := hinside.newline_mem h
  obtain ⟨missing, place, hskip, hmore, hplace⟩ := Cursor.exists_skip hmem 4 w
  have hline := hinside.trans hplace
  have hrest := hline.newline_mem h
  rw [hline.cutLine_eq] at hbelow
  rw [continueLine?, continueLine?, henter, happend]
  dsimp only
  rw [hskip, hmore]
  cases missing with
  | zero => simpa using ⟨rfl, hline⟩
  | succ missing =>
    have hends : endsParagraph opts o _ (place.append w).rest = _ :=
      endsParagraph_append hrest (.inl hbelow) (decide (n = o.frames.length)) w
    have hunderline : underline? (place.append w).rest = _ := underline?_append hrest w
    simp only [hends, hunderline, Option.isSome_map]
    split
    · simp
    · simpa using ⟨rfl, hline⟩

/-- No paragraph goes on with a line that begins with a fence. -/
theorem continueLine?_of_startsFence (hs : startsFence s = true) : continueLine? opts o s = none := by
  obtain ⟨missing, place, hskip, hfence⟩ := (atFence_enter hs o).skip_four
  simp [continueLine?, hskip, endsParagraph, endsText_of_fence? hfence]

/-- A line that a paragraph goes on with stands above the fence. -/
theorem continueLine?_append_of_barred (opts : Options) (o : Outline) (hb : Barred s) (w : Text) :
    continueLine? opts o (s ++ w) = (continueLine? opts o s).map (· ++ w) ∧
      ∀ r, continueLine? opts o s = some r → SameLine s r ∧ AboveFence r := by
  rcases hb.cases with hfence | habove
  · rw [continueLine?_of_startsFence hfence,
      continueLine?_of_startsFence ((startsFence_append hb.newline_mem w).trans hfence)]
    exact ⟨rfl, fun _ hr => by cases hr⟩
  · obtain ⟨happend, hline⟩ := continueLine?_append opts o hb.newline_mem (Barred.newline_mem habove) w
    exact ⟨happend, fun r hr => ⟨hline r hr, (AboveFence.sameLine_iff (hline r hr)).mp habove⟩⟩

theorem labelFrom?_skip (next : Link.NextLine) (x s : Text) :
    Link.labelFrom? next x.length (x ++ s) = Link.labelFrom? next 0 s := by
  induction x with
  | nil => rfl
  | cons c x ih => exact ih

theorem labelFrom?_cons (next : Link.NextLine) {c : Char} (hc : c ≠ '[' ∧ c ≠ ']' ∧ c ≠ '\\') (s : Text) :
    Link.labelFrom? next 0 (c :: s) =
      if isLineEnd c then
        ((dropLineEnd? (c :: s)).bind next).bind fun r =>
          (Link.labelFrom? next (s.length - r.length) s).map fun (l, rest) => ('\n' :: l, rest)
      else (Link.labelFrom? next 0 s).map fun (l, rest) => (c :: l, rest) := by
  obtain ⟨hopen, hclose, hescape⟩ := hc
  rw [Link.labelFrom?]
  · split
    · cases dropLineEnd? (c :: s) with
      | none => rfl
      | some below =>
        cases hnext : next below with
        | none => simp [hnext]
        | some r =>
          cases hlabel : Link.labelFrom? next (s.length - r.length) s with
          | none => simp [hnext, hlabel]
          | some find => simp [hnext, hlabel]
    · rfl
  · exact hopen
  · exact hclose
  · exact hescape

theorem labelFrom?_escape (next : Link.NextLine) (d : Char) (s : Text) :
    Link.labelFrom? next 0 ('\\' :: d :: s) =
      (Link.labelFrom? next 0 s).map fun (l, rest) => ('\\' :: d :: l, rest) := by
  have hskip : Link.labelFrom? next 1 (d :: s) = _ := labelFrom?_skip next [d] s
  rw [Link.labelFrom?, hskip]

theorem isLabelText_margin {u : Text} (hu : ∀ d ∈ u, isMargin d = true) (v : Text) :
    isLabelText (u ++ v) = isLabelText v := by
  induction u with
  | nil => rfl
  | cons d u ih =>
    rw [List.forall_mem_cons] at hu
    have hd : d ≠ '[' ∧ d ≠ ']' ∧ d ≠ '\\' := by
      refine ⟨?_, ?_, ?_⟩
      all_goals
        rintro rfl
        cases hu.1
    rw [List.cons_append, isLabelText_cons hd, ih hu.2]

/-- A line end and the margin of the next line leave a label open. -/
theorem isLabelText_nextLine {c : Char} {below r : Text} (hc : c ≠ '[' ∧ c ≠ ']' ∧ c ≠ '\\')
    (hd : dropLineEnd? (c :: s) = some below) (hr : BehindMargin below r) :
    ∃ x, s = x ++ r ∧ ∀ v, isLabelText (c :: (x ++ v)) = isLabelText v := by
  obtain ⟨u, rfl, hu⟩ := hr
  rw [dropLineEnd?.eq_def] at hd
  split at hd
  · next he => cases he
  · next he =>
    obtain ⟨rfl, rfl⟩ := List.cons.inj he
    obtain rfl := Option.some.inj hd
    have hnewline : ∀ v, isLabelText ('\n' :: (u ++ v)) = isLabelText (u ++ v) :=
      fun v => isLabelText_cons (by decide) (u ++ v)
    exact ⟨'\n' :: u, rfl, fun v => (isLabelText_cons hc _).trans ((hnewline v).trans (isLabelText_margin hu v))⟩
  · next he =>
    obtain ⟨rfl, rfl⟩ := List.cons.inj he
    split at hd
    · obtain rfl := Option.some.inj hd
      exact ⟨u, rfl, fun v => (isLabelText_cons hc _).trans (isLabelText_margin hu v)⟩
    · cases hd

theorem labelFrom?_append_of_isLineEnd {c : Char} (hc : c ≠ '[' ∧ c ≠ ']' ∧ c ≠ '\\') (hend : isLineEnd c = true)
    (hb : AboveFence (c :: s)) (he : LabelAboveFence (c :: s)) (w : Text)
    (shorter : ∀ r, r <:+ s → AboveFence r → LabelAboveFence r → Finds AboveFence r w
      (Link.labelFrom? (continueLine? opts o) 0 r) (Link.labelFrom? (continueLine? opts o) 0 (r ++ w))) :
    Finds AboveFence (c :: s) w (Link.labelFrom? (continueLine? opts o) 0 (c :: s))
      (Link.labelFrom? (continueLine? opts o) 0 (c :: s ++ w)) := by
  have hcons := labelFrom?_cons (continueLine? opts o) hc
  have hdrop := dropLineEnd?_append hb.newline_mem w
  rw [List.cons_append] at hdrop
  rw [List.cons_append, hcons, hcons, hend, if_pos rfl, if_pos rfl, hdrop]
  cases hd : dropLineEnd? (c :: s) with
  | none => exact .none
  | some below =>
    rw [AboveFence, below_of_dropLineEnd? (List.cons_ne_nil c s) hd] at hb
    obtain ⟨happend, hline⟩ := continueLine?_append_of_barred opts o hb w
    simp only [Option.map_some, Option.bind_some]
    rw [happend]
    cases hnext : continueLine? opts o below with
    | none => exact .none
    | some r =>
      obtain ⟨x, rfl, hx⟩ := isLabelText_nextLine hc hd (behindMargin_continueLine? hnext)
      have hused : ∀ t : Text, (x ++ t).length - t.length = x.length := by simp
      simp only [Option.map_some, Option.bind_some]
      rw [List.append_assoc, hused, hused, labelFrom?_skip, labelFrom?_skip]
      exact (shorter r ⟨x, rfl⟩ (hline r hnext).2 (he.behind (x := c :: x) hx)).map ('\n' :: ·) (c :: x)

/-- A label stops before a line that begins with a fence. -/
theorem labelFrom?_append (hb : AboveFence s) (he : LabelAboveFence s) (w : Text) :
    Finds AboveFence s w (Link.labelFrom? (continueLine? opts o) 0 s)
      (Link.labelFrom? (continueLine? opts o) 0 (s ++ w)) := by
  -- A label goes on behind an escaped character or with another line: the induction is on the length.
  induction hlength : s.length using Nat.strong_induction_on generalizing s with
  | _ n shorter =>
  subst hlength
  match s with
  | [] => exact absurd hb.newline_mem List.not_mem_nil
  | c :: s =>
    have hshorter : ∀ r, r <:+ s → AboveFence r → LabelAboveFence r → Finds AboveFence r w
        (Link.labelFrom? (continueLine? opts o) 0 r) (Link.labelFrom? (continueLine? opts o) 0 (r ++ w)) := by
      intro r hr habove hescape
      exact shorter r.length (Nat.lt_succ_of_le hr.length_le) habove hescape rfl
    by_cases hopen : c = '['
    · subst hopen
      exact .none
    by_cases hclose : c = ']'
    · subst hclose
      exact .some [] ⟨[']'], rfl⟩ ((AboveFence.sameLine_iff (.tail rfl s)).mp hb)
    by_cases hescape : c = '\\'
    · subst hescape
      match s with
      | [] => exact absurd hb.newline_mem (by decide)
      | d :: s =>
        rw [List.cons_append, List.cons_append, labelFrom?_escape, labelFrom?_escape]
        have hbehind : LabelAboveFence s := he.behind (x := ['\\', d]) fun v => rfl
        exact (hshorter s ⟨[d], rfl⟩ (hb.behind_escape he) hbehind).map ('\\' :: d :: ·) ['\\', d]
    cases hc : isLineEnd c with
    | true => exact labelFrom?_append_of_isLineEnd ⟨hopen, hclose, hescape⟩ hc hb he w hshorter
    | false =>
      have hcons := labelFrom?_cons (continueLine? opts o) ⟨hopen, hclose, hescape⟩
      have habove := (AboveFence.sameLine_iff (.tail hc s)).mp hb
      have hbehind : LabelAboveFence s := he.behind (x := [c]) (isLabelText_cons ⟨hopen, hclose, hescape⟩)
      rw [List.cons_append, hcons, hcons, hc, if_neg Bool.false_ne_true, if_neg Bool.false_ne_true]
      exact (hshorter s (List.suffix_refl s) habove hbehind).map (c :: ·) [c]

theorem label?_append (opts : Options) (o : Outline) (hb : AboveFence s) (he : LabelAboveFence s) (w : Text) :
    Finds AboveFence s w (Link.label? (continueLine? opts o) s) (Link.label? (continueLine? opts o) (s ++ w)) :=
  (labelFrom?_append hb he w).filter fun label => !label.all isAsciiBlank && label.length < Link.labelLimit

/-- Blanks between the parts of a definition end before a line that begins with a fence. -/
theorem skipToNext?_append (opts : Options) (o : Outline) (hb : AboveFence s) (w : Text) :
    Finds AboveFence s w (skipToNext? opts o s) (skipToNext? opts o (s ++ w)) := by
  have hblank := SameLine.dropWhile (fun _ => isLineEnd_of_isInlineBlank) s
  have hbehind := (AboveFence.sameLine_iff hblank).mp hb
  rw [skipToNext?, skipToNext?, dropWhile_append_of_newline rfl hb.newline_mem]
  dsimp only
  rw [dropLineEnd?_append hbehind.newline_mem]
  obtain ⟨c, t, hc⟩ := List.exists_cons_of_ne_nil (List.ne_nil_of_mem hbehind.newline_mem)
  cases hd : dropLineEnd? (s.dropWhile isInlineBlank) with
  | none => exact .some false hblank.suffix hbehind
  | some below =>
    have hbelow := below_of_dropLineEnd? (List.ne_nil_of_mem hbehind.newline_mem) hd
    rw [AboveFence, hbelow] at hbehind
    obtain ⟨happend, hline⟩ := continueLine?_append_of_barred opts o hbehind w
    simp only [Option.map_some]
    rw [happend]
    cases hnext : continueLine? opts o below with
    | none => exact .none
    | some next =>
      obtain ⟨hnextline, habove⟩ := hline next hnext
      have hrest := SameLine.dropWhile (fun _ => isLineEnd_of_isInlineBlank) next
      simp only [Option.map_some, Option.bind_some]
      rw [dropWhile_append_of_newline rfl habove.newline_mem,
        atLineEnd_append (hrest.newline_mem habove.newline_mem)]
      split
      · exact .none
      · refine .some true ?_ ((AboveFence.sameLine_iff hrest).mp habove)
        have hsuffix := cutLine_suffix (s.dropWhile isInlineBlank)
        rw [hbelow] at hsuffix
        exact ((hnextline.trans hrest).suffix.trans hsuffix).trans hblank.suffix

theorem titleLine_append (o : Outline) (h : '\n' ∈ s) (w : Text) :
    titleLine o (s ++ w) = (titleLine o s).map (· ++ w) ∧ ∀ r, titleLine o s = some r → SameLine s r := by
  obtain ⟨n, inside, henter, happend, hline⟩ := o.exists_enter h w
  have hblank : isBlank (inside.append w).rest = isBlank inside.rest := isBlank_append (hline.newline_mem h) w
  rw [titleLine, titleLine, henter, happend]
  simp only [hblank]
  split
  · simp
  · simpa using ⟨rfl, hline⟩

theorem titleLine_nil (o : Outline) : titleLine o [] = none := by
  obtain ⟨u, hu, _⟩ := o.sameLine_enter []
  have hnil : (o.enter []).2.rest = [] := (List.append_eq_nil_iff.mp hu.symm).2
  have hblank : isBlank (o.enter []).2.rest = true := by
    rw [hnil]
    rfl
  exact if_pos hblank

theorem suffix_of_titleLine {r : Text} (h : titleLine o s = some r) : r <:+ s := by
  rw [titleLine] at h
  dsimp only at h
  split at h
  · cases h
  · obtain rfl := Option.some.inj h
    exact (o.sameLine_enter s).suffix

theorem titleLine_readsLines (o : Outline) (w : Text) : Link.ReadsLines (titleLine o) w where
  nil := titleLine_nil o
  append ht := (titleLine_append o ht w).1
  sameLine ht h := (titleLine_append o ht w).2 _ h
  behind h := suffix_of_titleLine h

/-- What is read stays, or it goes on behind the text where a title may go on there. -/
inductive Settles {α : Type} (P : Text → Prop) (o : Outline) (s w : Text) (found longer : Option (α × Text)) : Prop
  | same (h : Finds P s w found longer)
  | behind (h : (titleLine o w).isSome = true) {a : α} {r : Text} (hlonger : longer = some (a, r)) (hr : r <:+ w.tail)

theorem definitionEnd?_append (opts : Options) (o : Outline) (hb : AboveFence s) (hs : s.getLast? = some '\n')
    (w : Text) :
    Settles ('\n' ∈ ·) o s w (definitionEnd? opts o s) (definitionEnd? opts o (s ++ w)) := by
  have hskip := skipToNext?_append opts o hb w
  have hmem := hb.newline_mem
  rw [definitionEnd?, definitionEnd?, hskip.longer_eq]
  cases hnext : skipToNext? opts o s with
  | none => exact .same (.some [] (List.suffix_refl _) hmem)
  | some found =>
    obtain ⟨onNextLine, next⟩ := found
    obtain ⟨hsuffix, habove⟩ := hskip.rest onNextLine next hnext
    have hlast := Link.getLast?_suffix hs hsuffix (List.ne_nil_of_mem habove.newline_mem)
    have htitle := Link.title?_append (titleLine_readsLines o w) hlast
    simp only [Option.map_some, restAppend, List.length_append, Nat.add_right_cancel_iff]
    split
    · exact .same .none
    · cases htitle with
      | same h =>
        rw [h.longer_eq]
        cases ht : Link.title? false (titleLine o) next with
        | none =>
          simp only [Option.map_none]
          split
          · exact .same (.some [] (List.suffix_refl _) hmem)
          · exact .same .none
        | some title =>
          obtain ⟨title, rest⟩ := title
          obtain ⟨hrest, hline⟩ := h.rest title rest ht
          simp only [Option.map_some, restAppend, isBlank_append hline]
          split
          · exact .same (.some title (hrest.trans hsuffix) hline)
          · split
            · exact .same (.some [] (List.suffix_refl _) hmem)
            · exact .same .none
      | @behind h hfound title r hlonger hr =>
        rw [hfound, hlonger]
        dsimp only
        cases isBlank r with
        | true => exact .behind h rfl hr
        | false =>
          simp only [Bool.false_eq_true, if_false]
          split
          · exact .same (.some [] (List.suffix_refl _) hmem)
          · exact .same .none

theorem dropStart?_colon_append (h : '\n' ∈ s) (w : Text) :
    Text.dropStart? ":" (s ++ w) = (Text.dropStart? ":" s).map (· ++ w) ∧
      ∀ r, Text.dropStart? ":" s = some r → SameLine s r := by
  obtain ⟨c, s, rfl⟩ := List.exists_cons_of_ne_nil (List.ne_nil_of_mem h)
  by_cases hc : c = ':'
  · subst hc
    refine ⟨rfl, ?_⟩
    intro r hr
    obtain rfl := Option.some.inj hr
    exact .tail rfl s
  · have hnone : ∀ t, Text.dropStart? ":" (c :: t) = none := fun t => Text.dropStart?_of_head_ne (Ne.symm hc)
    rw [List.cons_append, hnone, hnone]
    simp

theorem suffix_of_dropBlankLine? {below : Text} (h : dropBlankLine? s = some below) : below <:+ s := by
  have hdrop := List.dropWhile_suffix (l := s) isInlineBlank
  rw [dropBlankLine?] at h
  cases he : s.dropWhile isInlineBlank with
  | nil =>
    rw [he] at h
    obtain rfl := Option.some.inj h
    exact List.nil_suffix
  | cons c t =>
    rw [he] at h hdrop
    exact (suffix_of_dropLineEnd? h).trans (.trans ⟨[c], rfl⟩ hdrop)

/-- The target of a definition and what follows, given what follows the colon. -/
def target? (opts : Options) (o : Outline) (s : Text) : Option (Link.Target × Text) := do
  let (_, next) ← skipToNext? opts o s
  let (url, behind) ← Link.destination? Link.definitionNesting next
  if behind.length = next.length then none
  else
    let (title, rest) ← definitionEnd? opts o behind
    some (⟨Link.unescape false url, title⟩, (dropBlankLine? rest).getD rest)

theorem definition?_cons (opts : Options) (o : Outline) (s : Text) : definition? opts o ('[' :: s) =
    (Link.label? (continueLine? opts o) s).bind fun (label, rest) =>
      ((Text.dropStart? ":" rest).bind (target? opts o)).map (label, ·) := by
  rw [definition?]
  cases Link.label? (continueLine? opts o) s with
  | none => rfl
  | some found =>
    simp only [Option.bind_eq_bind, Option.bind_some]
    cases Text.dropStart? ":" found.2 with
    | none => rfl
    | some rest =>
      simp only [Option.bind_some, target?, Option.bind_eq_bind, Option.map_bind, Function.comp_def,
        apply_ite (Option.map (found.1, ·)), Option.map_none, Option.map_some]

theorem target?_append (opts : Options) (o : Outline) (hb : AboveFence s) (hs : s.getLast? = some '\n') (w : Text) :
    Settles (fun _ => True) o s w (target? opts o s) (target? opts o (s ++ w)) := by
  have hskip := skipToNext?_append opts o hb w
  rw [target?, target?, hskip.longer_eq]
  cases hnext : skipToNext? opts o s with
  | none => exact .same .none
  | some next =>
    obtain ⟨onNextLine, next⟩ := next
    obtain ⟨hnextsuffix, hnextabove⟩ := hskip.rest onNextLine next hnext
    have hurl := Link.destination?_append Link.definitionNesting hnextabove.newline_mem w
    simp only [Option.map_some, restAppend, Option.bind_eq_bind, Option.bind_some]
    rw [hurl.longer_eq]
    cases hdestination : Link.destination? Link.definitionNesting next with
    | none => exact .same .none
    | some destination =>
      obtain ⟨url, behind⟩ := destination
      obtain ⟨hbehindsuffix, hbehindline⟩ := hurl.rest url behind hdestination
      have habove := (AboveFence.sameLine_iff hbehindline).mp hnextabove
      have hsuffix := hbehindsuffix.trans hnextsuffix
      have hlast := Link.getLast?_suffix hs hsuffix (List.ne_nil_of_mem habove.newline_mem)
      simp only [Option.map_some, restAppend, Option.bind_some, List.length_append, Nat.add_right_cancel_iff]
      split
      · exact .same .none
      · cases definitionEnd?_append opts o habove hlast w with
        | same h =>
          rw [h.longer_eq]
          cases hd : definitionEnd? opts o behind with
          | none => exact .same .none
          | some found =>
            obtain ⟨title, last⟩ := found
            obtain ⟨hlastsuffix, hlastmem⟩ := h.rest title last hd
            simp only [Option.map_some, restAppend, Option.bind_some, dropBlankLine?_append hlastmem]
            cases hblank : dropBlankLine? last with
            | none => exact .same (.some _ (hlastsuffix.trans hsuffix) trivial)
            | some below =>
              exact .same (.some _ (((suffix_of_dropBlankLine? hblank).trans hlastsuffix).trans hsuffix) trivial)
        | @behind h title r hlonger hr =>
          rw [hlonger]
          refine .behind h rfl ?_
          cases hblank : dropBlankLine? r with
          | none => exact hr
          | some below => exact (suffix_of_dropBlankLine? hblank).trans hr

/-- Text behind a fence changes a definition only by a title that goes on there. -/
theorem definition?_append (opts : Options) (o : Outline) (hb : AboveFence s) (he : NoEscapedFence s)
    (hs : s.getLast? = some '\n') (w : Text) :
    definition? opts o (s ++ w) =
        (definition? opts o s).map (fun (label, target, rest) => (label, target, rest ++ w)) ∨
      (titleLine o w).isSome = true ∧
        ∃ label target r, definition? opts o (s ++ w) = some (label, target, r) ∧ r <:+ w.tail := by
  match s with
  | [] => cases hs
  | c :: s =>
    by_cases hc : c = '['
    swap
    · have hnone : ∀ t, definition? opts o (c :: t) = none := by
        intro t
        rw [definition?]
        rintro t' he
        exact hc (List.cons.inj he).1
      left
      rw [List.cons_append, hnone, hnone]
      rfl
    subst hc
    have hinside := (AboveFence.sameLine_iff (.tail (c := '[') rfl s)).mp hb
    have hlabel := label?_append opts o hinside (he [] s rfl) w
    rw [List.cons_append, definition?_cons, definition?_cons, hlabel.longer_eq]
    cases hfound : Link.label? (continueLine? opts o) s with
    | none => exact .inl rfl
    | some found =>
      obtain ⟨label, rest⟩ := found
      obtain ⟨hrest, habove⟩ := hlabel.rest label rest hfound
      obtain ⟨hcolon, hcolonline⟩ := dropStart?_colon_append habove.newline_mem w
      simp only [Option.map_some, restAppend, Option.bind_some]
      rw [hcolon]
      cases hbehind : Text.dropStart? ":" rest with
      | none => exact .inl rfl
      | some behind =>
        have hline := hcolonline behind hbehind
        have htarget := (AboveFence.sameLine_iff hline).mp habove
        have hsuffix : behind <:+ '[' :: s := (hline.suffix.trans hrest).trans ⟨['['], rfl⟩
        have hlast := Link.getLast?_suffix hs hsuffix (List.ne_nil_of_mem htarget.newline_mem)
        simp only [Option.map_some, Option.bind_some]
        cases target?_append opts o htarget hlast w with
        | same h =>
          rw [h.longer_eq, Option.map_map, Option.map_map]
          exact .inl rfl
        | behind h hlonger hr =>
          rw [hlonger]
          exact .inr ⟨h, _, _, _, rfl, hr⟩

end BlockReader
end Markweave.Markdown
