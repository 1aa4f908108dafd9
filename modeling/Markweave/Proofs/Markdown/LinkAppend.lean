import Markweave.Proofs.Markdown.LineAppend

namespace Markweave.Markdown

open Unicode (isAsciiPunctuation)

variable {s w : Text}

namespace CharacterReference

theorem numeric?_append (isDigit : Char → Bool) (hdigit : isDigit '\n' = false) (base limit : Nat) (h : '\n' ∈ s)
    (w : Text) : Finds ('\n' ∈ ·) s w (numeric? base limit isDigit s) (numeric? base limit isDigit (s ++ w)) := by
  have hmem := newline_mem_dropWhile hdigit h
  have hsuffix := List.dropWhile_suffix (l := s) isDigit
  rw [numeric?, numeric?, List.span_eq_takeWhile_dropWhile, List.span_eq_takeWhile_dropWhile,
    takeWhile_append_of_newline hdigit h, dropWhile_append_of_newline hdigit h]
  generalize s.dropWhile isDigit = rest at hmem hsuffix
  match rest with
  | [] => exact absurd hmem List.not_mem_nil
  | c :: rest =>
    by_cases hc : c = ';'
    · subst hc
      have hrest : '\n' ∈ rest := by simpa using hmem
      have hrest' : rest <:+ s := .trans ⟨[';'], rfl⟩ hsuffix
      simp only [List.cons_append]
      split
      · exact .none
      · cases ofCodePoint? _ with
        | none => exact .none
        | some d => exact .some [d] hrest' hrest
    · simpa [hc] using Finds.none

/-- What does not start as a number is read as a name. -/
theorem read?_of_ne (h : ∀ t, s ≠ '#' :: t) :
    read? s = if (s.dropWhile Char.isAlphanum).head? = some ';' then
      (named? (s.takeWhile Char.isAlphanum)).map (·, (s.dropWhile Char.isAlphanum).tail) else none := by
  unfold read?
  split
  · exact absurd rfl (h _)
  · exact absurd rfl (h _)
  · exact absurd rfl (h _)
  · rw [List.span_eq_takeWhile_dropWhile]
    match s.dropWhile Char.isAlphanum with
    | [] => rfl
    | d :: rest =>
      by_cases hd : d = ';'
      · rw [hd]
        rfl
      · simp [hd]

theorem read?_append (h : '\n' ∈ s) (w : Text) : Finds ('\n' ∈ ·) s w (read? s) (read? (s ++ w)) := by
  have hmem := newline_mem_dropWhile (p := Char.isAlphanum) rfl h
  have hsuffix := List.dropWhile_suffix (l := s) Char.isAlphanum
  match s with
  | [] => exact absurd h List.not_mem_nil
  | c :: s =>
    by_cases hc : c = '#'
    · subst hc
      have hs : '\n' ∈ s := by simpa using h
      match s with
      | [] => exact absurd hs List.not_mem_nil
      | d :: s =>
        by_cases hhex : d = 'x' ∨ d = 'X'
        · have hrest : '\n' ∈ s := by rcases hhex with rfl | rfl <;> simpa using hs
          have hfinds := (numeric?_append Text.isHexDigit rfl 16 6 hrest w).suffix ⟨['#', d], rfl⟩
          rcases hhex with rfl | rfl <;> exact hfinds
        · rw [not_or] at hhex
          have hread : ∀ t, read? ('#' :: d :: t) = numeric? 10 7 Char.isDigit (d :: t) := by
            intro t
            rw [read?]
            · rintro t' he
              exact hhex.1 (List.cons.inj he).1
            · rintro t' he
              exact hhex.2 (List.cons.inj he).1
          rw [List.cons_append, List.cons_append, hread, hread]
          exact (numeric?_append Char.isDigit rfl 10 7 hs w).suffix ⟨['#'], rfl⟩
    · have hhash : ∀ t t', c :: t ≠ '#' :: t' := fun _ _ he => hc (List.cons.inj he).1
      rw [List.cons_append, read?_of_ne (hhash s), read?_of_ne (hhash (s ++ w)), ← List.cons_append,
        takeWhile_append_of_newline rfl h, dropWhile_append_of_newline rfl h]
      generalize (c :: s).dropWhile Char.isAlphanum = rest at hmem hsuffix
      match rest with
      | [] => exact absurd hmem List.not_mem_nil
      | d :: rest =>
        by_cases hd : d = ';'
        · subst hd
          simp only [List.cons_append, List.head?_cons, List.tail_cons, if_true]
          cases named? _ with
          | none => exact .none
          | some value => exact .some value (.trans ⟨[';'], rfl⟩ hsuffix) (by simpa using hmem)
        · simpa [hd] using Finds.none

end CharacterReference

theorem isLineEnd_of_isAsciiPunctuation {c : Char} (h : isAsciiPunctuation c = true) : isLineEnd c = false := by
  by_contra hend
  rw [Bool.not_eq_false, isLineEnd, Bool.or_eq_true, beq_iff_eq, beq_iff_eq] at hend
  rcases hend with rfl | rfl <;> exact absurd h (by decide)

namespace Link

/-- A backslash before the end of a text that ends with a line has something behind it. -/
theorem escape_of_newline {c : Char} (h : '\n' ∈ c :: s) (hs : ∀ d t, c = '\\' → s = d :: t → False) {w : Text} :
    ∀ d t, c = '\\' → s ++ w = d :: t → False := by
  rintro d t rfl _
  match s with
  | [] => exact absurd h (by decide)
  | d' :: s => exact hs d' s rfl rfl

theorem bracketed?_append (h : '\n' ∈ s) (w : Text) : Finds (SameLine s) s w (bracketed? s) (bracketed? (s ++ w)) := by
  fun_induction bracketed? s with
  | case1 => exact absurd h List.not_mem_nil
  | case2 s => exact .some [] ⟨['>'], rfl⟩ (.tail rfl s)
  | case3 c s hc ih =>
    have hend := isLineEnd_of_isAsciiPunctuation hc
    have hline : SameLine ('\\' :: c :: s) s := (SameLine.tail rfl _).trans (.tail hend s)
    rw [List.cons_append, List.cons_append, bracketed?, if_pos hc]
    exact ((ih (hline.newline_mem h)).map ('\\' :: c :: ·) ['\\', c]).mono fun r hr => hline.trans hr
  | case4 c s hc ih =>
    have hline : SameLine ('\\' :: c :: s) (c :: s) := SameLine.tail rfl _
    rw [List.cons_append, List.cons_append, bracketed?, if_neg hc]
    exact ((ih (hline.newline_mem h)).map ('\\' :: ·) ['\\']).mono fun r hr => hline.trans hr
  | case5 c s hclose hescape hstop =>
    rw [List.cons_append, bracketed?, if_pos hstop]
    · exact .none
    · exact hclose
    · exact escape_of_newline h hescape
  | case6 c s hclose hescape hstop ih =>
    rw [Bool.or_eq_true, not_or, Bool.not_eq_true] at hstop
    have hline : SameLine (c :: s) s := .tail hstop.1 s
    rw [List.cons_append, bracketed?, if_neg (by simp [hstop])]
    · exact ((ih (hline.newline_mem h)).map (c :: ·) [c]).mono fun r hr => hline.trans hr
    · exact hclose
    · exact escape_of_newline h hescape

theorem bare?_append (limit nest : Nat) (h : '\n' ∈ s) (w : Text) :
    Finds (SameLine s) s w (bare? limit nest s) (bare? limit nest (s ++ w)) := by
  fun_induction bare? limit nest s with
  | case1 => exact absurd h List.not_mem_nil
  | case2 => exact absurd h List.not_mem_nil
  | case3 nest s hlimit =>
    rw [List.cons_append, bare?, if_pos hlimit]
    exact .none
  | case4 nest s hlimit ih =>
    have hline : SameLine ('(' :: s) s := .tail rfl s
    rw [List.cons_append, bare?, if_neg hlimit]
    exact ((ih (hline.newline_mem h)).map ('(' :: ·) ['(']).mono fun r hr => hline.trans hr
  | case5 s => exact .some [] (List.suffix_refl _) (.refl _)
  | case6 nest s hnest ih =>
    have hline : SameLine (')' :: s) s := .tail rfl s
    rw [List.cons_append, bare?, if_neg hnest]
    exact ((ih (hline.newline_mem h)).map (')' :: ·) [')']).mono fun r hr => hline.trans hr
  | case7 nest c s hc ih =>
    have hline : SameLine ('\\' :: c :: s) s :=
      (SameLine.tail rfl _).trans (.tail (isLineEnd_of_isAsciiPunctuation hc) s)
    rw [List.cons_append, List.cons_append, bare?, if_pos hc]
    exact ((ih (hline.newline_mem h)).map ('\\' :: c :: ·) ['\\', c]).mono fun r hr => hline.trans hr
  | case8 nest c s hc ih =>
    have hline : SameLine ('\\' :: c :: s) (c :: s) := .tail rfl _
    rw [List.cons_append, List.cons_append, bare?, if_neg hc]
    exact ((ih (hline.newline_mem h)).map ('\\' :: ·) ['\\']).mono fun r hr => hline.trans hr
  | case9 c s hopen hclose hescape hc =>
    rw [List.cons_append, bare?, if_pos hc, if_pos rfl]
    · exact .some [] (List.suffix_refl _) (.refl _)
    · exact hopen
    · exact hclose
    · exact escape_of_newline h hescape
  | case10 nest c s hopen hclose hescape hc hnest =>
    rw [List.cons_append, bare?, if_pos hc, if_neg hnest]
    · exact .none
    · exact hopen
    · exact hclose
    · exact escape_of_newline h hescape
  | case11 nest c s hopen hclose hescape hc ih =>
    have hend : isLineEnd c = false := by
      by_contra hend
      rw [Bool.not_eq_false, isLineEnd, Bool.or_eq_true, beq_iff_eq, beq_iff_eq] at hend
      rcases hend with rfl | rfl <;> exact absurd (by decide) hc
    have hline : SameLine (c :: s) s := .tail hend s
    rw [List.cons_append, bare?, if_neg hc]
    · exact ((ih (hline.newline_mem h)).map (c :: ·) [c]).mono fun r hr => hline.trans hr
    · exact hopen
    · exact hclose
    · exact escape_of_newline h hescape

/-- A destination ends on its line. -/
theorem destination?_append (limit : Nat) (h : '\n' ∈ s) (w : Text) :
    Finds (SameLine s) s w (destination? limit s) (destination? limit (s ++ w)) := by
  match s with
  | [] => exact absurd h List.not_mem_nil
  | c :: s =>
    by_cases hc : c = '<'
    · subst hc
      have hline : SameLine ('<' :: s) s := .tail rfl s
      exact ((bracketed?_append (hline.newline_mem h) w).suffix ⟨['<'], rfl⟩).mono fun r hr => hline.trans hr
    · have hbare : ∀ t, destination? limit (c :: t) = bare? limit 0 (c :: t) := by
        intro t
        rw [destination?]
        rintro t' he
        exact hc (List.cons.inj he).1
      rw [List.cons_append, hbare, hbare]
      exact bare?_append limit 0 h w

/-- What becomes of a title with more text behind: it stays, or, if the text may go on, it closes there. -/
inductive Closes (goesOn : Prop) (s w : Text) (found longer : Option (Text × Text)) : Prop
  | same (h : Finds ('\n' ∈ ·) s w found longer)
  | behind (h : goesOn) (hfound : found = none) {t r : Text} (hlonger : longer = some (t, r)) (hr : r <:+ w.tail)

theorem Closes.keep {goesOn : Prop} {found longer : Option (Text × Text)} (h : Closes goesOn s w found longer)
    (value x : Text) : Closes goesOn (x ++ s) w (found.map fun (t, rest) => (value ++ t, rest))
      (longer.map fun (t, rest) => (value ++ t, rest)) := by
  cases h with
  | same h => exact .same (h.map (value ++ ·) x)
  | behind h hfound hlonger hr =>
    subst hfound hlonger
    exact .behind h rfl rfl hr

section Title

variable {next : NextLine} {opener closer : Char}

theorem titleFrom?_skip (x s : Text) : titleFrom? false next opener closer x.length (x ++ s) =
    titleFrom? false next opener closer 0 s := by
  induction x with
  | nil => rfl
  | cons c x ih => exact ih

theorem titleFrom?_cons (c : Char) (s : Text) : titleFrom? false next opener closer 0 (c :: s) =
    let keep (value : Text) (n : Nat) : Option (Text × Text) :=
      (titleFrom? false next opener closer n s).map fun (t, rest) => (value ++ t, rest)
    if c = closer then some ([], s)
    else if c = opener then none
    else if isLineEnd c then
      match (dropLineEnd? (c :: s)).bind next with
      | some r => keep ['\n'] (s.length - r.length)
      | none => none
    else if c = '&' then
      match CharacterReference.read? s with
      | some (value, rest) => keep value (s.length - rest.length)
      | none => keep [c] 0
    else if c = '\\' then
      match s with
      | d :: _ => if isAsciiPunctuation d then keep [d] 1 else keep [c] 0
      | [] => keep [c] 0
    else keep [c] 0 := by
  rw [titleFrom?.eq_def]
  rfl

/-- A title takes at least the character that closes it. -/
theorem titleFrom?_suffix {n : Nat} {t r : Text} (h : titleFrom? false next opener closer n s = some (t, r)) :
    r <:+ s.tail := by
  induction s generalizing n t with
  | nil =>
    rw [titleFrom?] at h
    cases h
  | cons c s ih =>
    have hkeep : ∀ {value : Text} {m : Nat} {t : Text},
        ((titleFrom? false next opener closer m s).map fun (t, rest) => (value ++ t, rest)) = some (t, r) →
          r <:+ s := by
      intro value m t hkept
      obtain ⟨⟨t', r'⟩, hfound, heq⟩ := Option.map_eq_some_iff.mp hkept
      obtain ⟨rfl, rfl⟩ := Prod.mk.inj heq
      exact (ih hfound).trans s.tail_suffix
    cases n with
    | succ n => exact (ih h).trans s.tail_suffix
    | zero =>
      rw [titleFrom?_cons] at h
      split at h
      · obtain ⟨rfl, rfl⟩ := Prod.mk.inj (Option.some.inj h)
        exact List.suffix_refl _
      split at h
      · cases h
      split at h
      · split at h
        · exact hkeep h
        · cases h
      split at h
      · split at h
        · exact hkeep h
        · exact hkeep h
      split at h
      · split at h
        · split at h
          · exact hkeep h
          · exact hkeep h
        · exact hkeep h
      · exact hkeep h

theorem tail_suffix_tail {t : Text} (h : t <:+ s) : t.tail <:+ s.tail := by
  obtain ⟨x, rfl⟩ := h
  cases x with
  | nil => exact List.suffix_refl _
  | cons c x => exact t.tail_suffix.trans (List.suffix_append x t)

theorem getLast?_tail {c d : Char} (hc : c ≠ d) (h : (c :: s).getLast? = some d) : s.getLast? = some d := by
  match s with
  | [] =>
    rw [List.getLast?_singleton] at h
    exact absurd (Option.some.inj h) hc
  | e :: s => rwa [List.getLast?_cons_cons] at h

theorem getLast?_suffix {t : Text} {d : Char} (hs : s.getLast? = some d) (ht : t <:+ s) (hne : t ≠ []) :
    t.getLast? = some d := by
  obtain ⟨x, rfl⟩ := ht
  obtain ⟨a, r, rfl⟩ := List.exists_cons_of_ne_nil hne
  simpa [List.getLast?_append, List.getLast?_cons] using hs

theorem newline_mem_of_getLast? (h : s.getLast? = some '\n') : '\n' ∈ s := List.mem_of_getLast? h

/-- How a title goes on from line to line: never at the end of the text, and with `w` behind as without it. -/
structure ReadsLines (next : NextLine) (w : Text) : Prop where
  nil : next [] = none
  append {t : Text} (ht : '\n' ∈ t) : next (t ++ w) = (next t).map (· ++ w)
  sameLine {t r : Text} (ht : '\n' ∈ t) (h : next t = some r) : SameLine t r
  behind {r : Text} (h : next w = some r) : r <:+ w

/-- With `w` behind `s` the title read from `s` on stays, or it closes behind `s`. -/
def TitleCloses (next : NextLine) (opener closer : Char) (w s : Text) : Prop :=
  Closes ((next w).isSome = true) s w (titleFrom? false next opener closer 0 s)
    (titleFrom? false next opener closer 0 (s ++ w))

/-- The title takes `x` for `value`, and goes on behind it. -/
theorem TitleCloses.keep {r : Text} (h : TitleCloses next opener closer w r) (c : Char) (x value : Text) :
    Closes ((next w).isSome = true) (c :: (x ++ r)) w
      ((titleFrom? false next opener closer ((x ++ r).length - r.length) (x ++ r)).map
        fun (t, rest) => (value ++ t, rest))
      ((titleFrom? false next opener closer ((x ++ r).length - r.length) (x ++ r ++ w)).map
        fun (t, rest) => (value ++ t, rest)) := by
  have hused : (x ++ r).length - r.length = x.length := by simp
  rw [hused, List.append_assoc, titleFrom?_skip, titleFrom?_skip]
  exact Closes.keep h value (c :: x)

theorem titleCloses_of_isLineEnd {c : Char} (hread : ReadsLines next w) (hclose : c ≠ closer) (hopen : c ≠ opener)
    (hend : isLineEnd c = true) (hs : (c :: s).getLast? = some '\n')
    (shorter : ∀ r, r <:+ s → r.getLast? = some '\n' → TitleCloses next opener closer w r) :
    TitleCloses next opener closer w (c :: s) := by
  have hdrop := dropLineEnd?_append (newline_mem_of_getLast? hs) w
  rw [List.cons_append] at hdrop
  rw [TitleCloses, List.cons_append, titleFrom?_cons, titleFrom?_cons, hdrop]
  simp only [if_neg hclose, if_neg hopen, if_pos hend]
  cases hd : dropLineEnd? (c :: s) with
  | none => exact .same .none
  | some below =>
    have hbelow : below <:+ s := suffix_of_dropLineEnd? hd
    simp only [Option.map_some, Option.bind_some]
    by_cases hlast : below = []
    · -- The text ends here, and whether the title goes on is up to what stands behind.
      subst hlast
      rw [hread.nil, List.nil_append]
      cases hw : next w with
      | none => exact .same .none
      | some r =>
        obtain ⟨x, hx⟩ : r <:+ s ++ w := (hread.behind hw).trans (List.suffix_append s w)
        have hused : (s ++ w).length - r.length = x.length := by simp [← hx]
        simp only [hused]
        rw [← hx, titleFrom?_skip]
        cases ht : titleFrom? false next opener closer 0 r with
        | none => exact .same .none
        | some found =>
          exact .behind (by rfl) rfl rfl ((titleFrom?_suffix ht).trans (tail_suffix_tail (hread.behind hw)))
    · have hnl := newline_mem_of_getLast? (getLast?_suffix hs (hbelow.trans ⟨[c], rfl⟩) hlast)
      rw [hread.append hnl]
      cases hr : next below with
      | none => exact .same .none
      | some r =>
        have hline := hread.sameLine hnl hr
        have hsuffix := hline.suffix.trans hbelow
        have hrlast := getLast?_suffix hs (hsuffix.trans ⟨[c], rfl⟩) (List.ne_nil_of_mem (hline.newline_mem hnl))
        obtain ⟨x, rfl⟩ := hsuffix
        simpa using (shorter r ⟨x, rfl⟩ hrlast).keep c x ['\n']

theorem titleCloses_of_not_isLineEnd {c : Char} (hclose : c ≠ closer) (hopen : c ≠ opener)
    (hend : isLineEnd c = false) (hs : (c :: s).getLast? = some '\n')
    (shorter : ∀ r, r <:+ s → r.getLast? = some '\n' → TitleCloses next opener closer w r) :
    TitleCloses next opener closer w (c :: s) := by
  have hnewline : c ≠ '\n' := by
    rintro rfl
    cases hend
  have hlast := getLast?_tail hnewline hs
  have hplain := (shorter s (List.suffix_refl s) hlast).keep c [] [c]
  rw [List.nil_append, Nat.sub_self] at hplain
  rw [TitleCloses, List.cons_append, titleFrom?_cons, titleFrom?_cons]
  simp only [if_neg hclose, if_neg hopen, hend, if_neg Bool.false_ne_true]
  by_cases hamp : c = '&'
  · simp only [if_pos hamp]
    have hread := CharacterReference.read?_append (newline_mem_of_getLast? hlast) w
    rw [hread.longer_eq]
    cases hr : CharacterReference.read? s with
    | none => exact hplain
    | some reference =>
      obtain ⟨value, r⟩ := reference
      obtain ⟨hsuffix, hnl⟩ := hread.rest value r hr
      have hrlast := getLast?_suffix hlast hsuffix (List.ne_nil_of_mem hnl)
      obtain ⟨x, rfl⟩ := hsuffix
      simpa [restAppend] using (shorter r ⟨x, rfl⟩ hrlast).keep c x value
  · simp only [if_neg hamp]
    by_cases hescape : c = '\\'
    · simp only [if_pos hescape]
      cases s with
      | nil => cases hlast
      | cons d s =>
        by_cases hd : isAsciiPunctuation d = true
        · have hdlast := getLast?_tail (by rintro rfl; exact absurd hd (by decide)) hlast
          simpa [hd] using (shorter s ⟨[d], rfl⟩ hdlast).keep c [d] [d]
        · simpa [hd] using hplain
    · simpa only [if_neg hescape] using hplain

theorem titleFrom?_append (hcloser : closer ≠ '\n') (hread : ReadsLines next w) (hs : s.getLast? = some '\n') :
    TitleCloses next opener closer w s := by
  -- A title goes on behind a whole reference or with another line: the induction is on the length.
  induction hlength : s.length using Nat.strong_induction_on generalizing s with
  | _ n shorter =>
  subst hlength
  match s with
  | [] => cases hs
  | c :: s =>
    have hshorter : ∀ r, r <:+ s → r.getLast? = some '\n' → TitleCloses next opener closer w r := by
      intro r hr hlast
      exact shorter r.length (Nat.lt_succ_of_le hr.length_le) hlast rfl
    by_cases hclose : c = closer
    · subst hclose
      have hrest := newline_mem_of_getLast? (getLast?_tail hcloser hs)
      rw [TitleCloses, List.cons_append, titleFrom?_cons, titleFrom?_cons]
      simp only [if_pos]
      exact .same (.some [] ⟨[c], rfl⟩ hrest)
    by_cases hopen : c = opener
    · subst hopen
      rw [TitleCloses, List.cons_append, titleFrom?_cons, titleFrom?_cons]
      simp only [if_neg hclose, if_pos]
      exact .same .none
    cases hend : isLineEnd c with
    | true => exact titleCloses_of_isLineEnd hread hclose hopen hend hs hshorter
    | false => exact titleCloses_of_not_isLineEnd hclose hopen hend hs hshorter

theorem titleClose?_ne {opener closer : Char} (h : titleClose? opener = some closer) :
    opener ≠ '\n' ∧ closer ≠ '\n' := by
  rw [titleClose?.eq_def] at h
  split at h
  all_goals cases h
  all_goals decide

theorem title?_append (hread : ReadsLines next w) (hs : s.getLast? = some '\n') :
    Closes ((next w).isSome = true) s w (title? false next s) (title? false next (s ++ w)) := by
  cases s with
  | nil => cases hs
  | cons opener s =>
    rw [List.cons_append, title?, title?]
    cases hclose : titleClose? opener with
    | none => exact .same .none
    | some closer =>
      obtain ⟨hopener, hcloser⟩ := titleClose?_ne hclose
      have hfrom : TitleCloses next opener closer w s :=
        titleFrom?_append hcloser hread (getLast?_tail hopener hs)
      cases hfrom with
      | same h => exact .same (h.suffix ⟨[opener], rfl⟩)
      | behind h hfound hlonger hr => exact .behind h hfound hlonger hr

end Title

end Link
end Markweave.Markdown
