import Markweave.Proofs.Text.Cut
import Markweave.Proofs.Text.Lines

namespace Markweave.Text

variable {n s a b : Text} {d : Char}

theorem dropStart?_eq_none_iff : dropStart? n s = none ↔ ¬ n <+: s := by
  rw [← Option.not_isSome_iff_eq_none, Option.isSome_iff_exists]
  refine not_congr ⟨?_, ?_⟩
  · rintro ⟨r, h⟩
    exact ⟨r, (dropStart?_eq_some_iff.mp h).symm⟩
  · rintro ⟨r, rfl⟩
    exact ⟨r, dropStart?_append n r⟩

theorem startsWith_iff_prefix : startsWith n s = true ↔ n <+: s := by
  rw [startsWith, ← Option.ne_none_iff_isSome, ne_eq, dropStart?_eq_none_iff, Decidable.not_not]

theorem cut?_eq_none_iff : cut? n s = none ↔ ¬ n <:+: s := by
  induction s with
  | nil => rw [cut?, Option.map_eq_none_iff, dropStart?_eq_none_iff, List.prefix_nil, List.infix_nil]
  | cons c s ih =>
    rw [cut?, List.infix_cons_iff, not_or, ← dropStart?_eq_none_iff, ← ih]
    cases dropStart? n (c :: s) with
    | none => simp
    | some r => simp

theorem contains_iff_infix : contains n s = true ↔ n <:+: s := by
  rw [contains, ← Option.ne_none_iff_isSome, ne_eq, cut?_eq_none_iff, Decidable.not_not]

theorem contains_eq_false_iff : contains n s = false ↔ ¬ n <:+: s := by
  rw [← contains_iff_infix, Bool.not_eq_true]

theorem exists_cut?_of_infix (h : n <:+: s) : ∃ a b, cut? n s = some (a, b) := by
  cases hcut : cut? n s with
  | none => exact absurd h (cut?_eq_none_iff.mp hcut)
  | some pair => exact ⟨pair.1, pair.2, rfl⟩

/-- What follows the first occurrence is not looked at. -/
theorem cut?_append_of_cut? (h : cut? n s = some (a, b)) (r : Text) : cut? n (a ++ n ++ r) = some (a, r) := by
  induction s generalizing a with
  | nil =>
    rw [cut?, Option.map_eq_some_iff] at h
    obtain ⟨_, _, he⟩ := h
    obtain rfl := (Prod.mk.inj he).1
    exact cut?_eq_some_of_dropStart? (dropStart?_append n r)
  | cons c s ih =>
    rw [cut?] at h
    split at h
    · obtain rfl := (Prod.mk.inj (Option.some.inj h)).1
      exact cut?_eq_some_of_dropStart? (dropStart?_append n r)
    · next hstart =>
      obtain ⟨⟨x, y⟩, hcut, he⟩ := Option.map_eq_some_iff.mp h
      obtain ⟨rfl, rfl⟩ := Prod.mk.inj he
      have hnone : dropStart? n (c :: (x ++ n ++ r)) = none := by
        rw [dropStart?_eq_none_iff] at hstart ⊢
        intro hprefix
        refine hstart ?_
        rw [eq_append_of_cut? hcut]
        have hlength : n.length ≤ (c :: (x ++ n)).length := by simp; omega
        exact (List.prefix_of_prefix_length_le hprefix (List.prefix_append (c :: (x ++ n)) r) hlength).trans
          (List.prefix_append _ y)
      rw [List.cons_append, List.cons_append, cut?, hnone, ih hcut]
      rfl

theorem cut?_append (h : cut? n s = some (a, b)) (r : Text) : cut? n (s ++ r) = some (a, b ++ r) := by
  rw [eq_append_of_cut? h, List.append_assoc]
  exact cut?_append_of_cut? h (b ++ r)

/-- A needle behind a text is its own first occurrence if none ends earlier. -/
theorem cut?_append_iff (hn : n ≠ []) :
    cut? n (a ++ n ++ b) = some (a, b) ↔ ¬ n <:+: a ++ n.dropLast := by
  have hlast : ∀ x : Text, x ++ n ++ b = x ++ n.dropLast ++ (n.getLast hn :: b) := by
    intro x
    have hsplit : x ++ (n.dropLast ++ [n.getLast hn]) ++ b = x ++ n.dropLast ++ (n.getLast hn :: b) := by simp
    rwa [List.dropLast_concat_getLast] at hsplit
  constructor
  · intro h hoccurs
    obtain ⟨x, y, hx⟩ := exists_cut?_of_infix hoccurs
    have hlength := congrArg List.length (eq_append_of_cut? hx)
    have hfirst := cut?_append hx (n.getLast hn :: b)
    rw [← hlast, h] at hfirst
    obtain rfl := (Prod.mk.inj (Option.some.inj hfirst)).1
    have hpos := List.length_pos_iff.mpr hn
    simp only [List.length_append, List.length_dropLast] at hlength
    omega
  · intro h
    induction a with
    | nil => exact cut?_eq_some_of_dropStart? (dropStart?_append n b)
    | cons c a ih =>
      have hnone : dropStart? n (c :: (a ++ n ++ b)) = none := by
        rw [dropStart?_eq_none_iff]
        intro hprefix
        refine h (List.IsPrefix.isInfix (List.prefix_of_prefix_length_le hprefix ?_ ?_))
        · rw [hlast]
          exact List.prefix_append (c :: (a ++ n.dropLast)) _
        · simp
          omega
      rw [List.cons_append, List.cons_append, cut?, hnone,
        ih fun hoccurs => h (List.infix_cons hoccurs)]
      rfl

theorem not_infix_of_cut? (hn : n ≠ []) (h : cut? n s = some (a, b)) : ¬ n <:+: a := by
  have hfirst := (cut?_append_iff hn).mp (cut?_append_of_cut? h b)
  exact fun hoccurs => hfirst (hoccurs.trans (List.prefix_append a _).isInfix)

/-- No end of the needle but the whole is also its beginning, so two occurrences cannot overlap. -/
def Unbordered (n : Text) : Prop := ∀ k < n.length, 0 < k → ¬ n.drop k <+: n

instance : Decidable (Unbordered n) := inferInstanceAs (Decidable (∀ k < _, _))

theorem cut?_append_of_not_infix (hn : Unbordered n) (ha : ¬ n <:+: a) (b : Text) :
    cut? n (a ++ n ++ b) = some (a, b) := by
  induction a with
  | nil => exact cut?_eq_some_of_dropStart? (dropStart?_append n b)
  | cons c a ih =>
    have hnone : dropStart? n (c :: (a ++ n ++ b)) = none := by
      rw [dropStart?_eq_none_iff]
      rintro ⟨t, ht⟩
      rw [List.append_assoc, ← List.cons_append] at ht
      rcases List.append_eq_append_iff.mp ht with ⟨w, hw, _⟩ | ⟨v, hv, hrest⟩
      · exact ha (by rw [hw]; exact (List.prefix_append n w).isInfix)
      · -- The occurrence ends inside the needle, with a beginning of the needle.
        have hdrop : n.drop (c :: a).length = v := by rw [hv, List.drop_left]
        have hprefix : v <+: n := List.prefix_of_prefix_length_le (hrest ▸ List.prefix_append v t)
          (List.prefix_append n b) (by rw [← hdrop, List.length_drop]; omega)
        have hlength := congrArg List.length hv
        rw [List.length_append] at hlength
        cases v with
        | nil =>
          rw [List.append_nil] at hv
          exact ha (hv ▸ List.infix_refl n)
        | cons e v => exact hn _ (by simp [hlength]) (by simp) (hdrop ▸ hprefix)
    rw [List.cons_append, List.cons_append, cut?, hnone, ih fun hoccurs => ha (List.infix_cons hoccurs)]
    rfl

/-- Behind a text without the needle and a character outside the needle the search begins anew. -/
theorem cut?_append_cons (hd : d ∉ n) (ha : ¬ n <:+: a) (r : Text) :
    cut? n (a ++ d :: r) = (cut? n r).map fun (before, after) => (a ++ d :: before, after) := by
  have hwall := dropStart?_append_wall hd
  induction a with
  | nil =>
    have hn : dropStart? n [] = none := dropStart?_eq_none_iff.mpr fun h => ha h.isInfix
    have hstart := hwall [] r
    rw [List.nil_append, hn, Option.map_none] at hstart
    rw [List.nil_append, cut?, hstart]
    rfl
  | cons c a ih =>
    have hn : dropStart? n (c :: a) = none := dropStart?_eq_none_iff.mpr fun h => ha h.isInfix
    have hstart := hwall (c :: a) r
    rw [hn, Option.map_none, List.cons_append] at hstart
    rw [List.cons_append, cut?, hstart, ih fun hoccurs => ha (List.infix_cons hoccurs)]
    cases cut? n r <;> rfl

/-- In whole lines nothing is found that is not on one of them. -/
theorem cut?_lines (hn : '\n' ∉ n) {lines : List Text} (h : ∀ line ∈ lines, ¬ n <:+: line) (s : Text) :
    cut? n (lines.flatMap (· ++ ['\n']) ++ s) =
      (cut? n s).map fun (before, after) => (lines.flatMap (· ++ ['\n']) ++ before, after) := by
  induction lines with
  | nil => simp
  | cons line more ih =>
    rw [List.forall_mem_cons] at h
    rw [lines_cons, cut?_append_cons hn h.1, ih h.2, Option.map_map]
    simp [Function.comp_def]

/-- A needle that does not occur before another one comes behind it. -/
theorem length_lt_of_not_infix {m x y : Text} (hn : n.head? = some d) (hd : d ∉ m)
    (hneedle : cut? n s = some (a, b)) (hother : cut? m s = some (x, y)) (ha : ¬ m <:+: a) :
    a.length < x.length := by
  obtain ⟨n, rfl⟩ := List.head?_eq_some_iff.mp hn
  have hs : s = a ++ d :: (n ++ b) := by simpa using eq_append_of_cut? hneedle
  rw [hs, cut?_append_cons hd ha] at hother
  obtain ⟨⟨before, _⟩, _, he⟩ := Option.map_eq_some_iff.mp hother
  obtain rfl := (Prod.mk.inj he).1
  simp

theorem length_lt_of_infix {m x y : Text} (hm : m ≠ []) (hneedle : cut? n s = some (a, b))
    (hother : cut? m s = some (x, y)) (ha : m <:+: a) : x.length < a.length := by
  obtain ⟨before, after, hbefore⟩ := exists_cut?_of_infix ha
  have hfirst := cut?_append hbefore (n ++ b)
  rw [← List.append_assoc, ← eq_append_of_cut? hneedle, hother] at hfirst
  obtain rfl := (Prod.mk.inj (Option.some.inj hfirst)).1
  have hlength := congrArg List.length (eq_append_of_cut? hbefore)
  have hpos := List.length_pos_iff.mpr hm
  simp only [List.length_append] at hlength
  omega

theorem prefix_append_cons_iff (hd : d ∉ n) : n <+: a ++ d :: b ↔ n <+: a := by
  rw [← startsWith_iff_prefix, ← startsWith_iff_prefix, startsWith, dropStart?_append_wall hd, Option.isSome_map]
  rfl

theorem infix_append_cons_iff (hd : d ∉ n) : n <:+: a ++ d :: b ↔ n <:+: a ∨ n <:+: b := by
  constructor
  · intro h
    by_cases ha : n <:+: a
    · exact .inl ha
    by_cases hb : n <:+: b
    · exact .inr hb
    refine absurd h (cut?_eq_none_iff.mp ?_)
    rw [cut?_append_cons hd ha, cut?_eq_none_iff.mpr hb]
    rfl
  · rintro (h | h)
    · exact h.trans (List.prefix_append a _).isInfix
    · exact h.trans ((List.suffix_cons d b).trans (List.suffix_append a _)).isInfix

/-- A beginning made of other characters holds no part of an occurrence. -/
theorem cut?_append_of_forall_notMem {x : Text} (hx : ∀ c ∈ x, c ∉ n) (hn : n ≠ []) (s : Text) :
    cut? n (x ++ s) = (cut? n s).map fun (before, after) => (x ++ before, after) := by
  induction x with
  | nil => simp
  | cons c x ih =>
    rw [List.forall_mem_cons] at hx
    have hcut := cut?_append_cons (a := []) hx.1 (fun h => hn (List.infix_nil.mp h)) (x ++ s)
    rw [List.nil_append] at hcut
    rw [List.cons_append, hcut, ih hx.2, Option.map_map]
    rfl

theorem infix_of_infix_append {x : Text} (hx : ∀ c ∈ x, c ∉ n) (hn : n ≠ []) (h : n <:+: x ++ s) : n <:+: s := by
  refine Classical.byContradiction fun hs => cut?_eq_none_iff.mp ?_ h
  rw [cut?_append_of_forall_notMem hx hn, cut?_eq_none_iff.mpr hs]
  rfl

/-- A stretch of other characters keeps the occurrences on its two sides apart. -/
theorem infix_append_append {x y : Text} (hx : ∀ c ∈ x, c ∉ n) (hne : x ≠ []) (hn : n ≠ [])
    (h : n <:+: a ++ (x ++ y)) : n <:+: a ∨ n <:+: y := by
  obtain ⟨c, x, rfl⟩ := List.exists_cons_of_ne_nil hne
  rw [List.forall_mem_cons] at hx
  exact ((infix_append_cons_iff hx.1).mp h).imp_right (infix_of_infix_append hx.2 hn)

section Replace

variable {old new : Text} {ds : Text}

/-- No occurrence of the needle begins in the new text, whatever follows it, and none reaches into it from before. -/
def Apart (n new : Text) : Prop :=
  new.head?.any (· ∉ n.tail) = true ∧ ∀ k < new.length, ¬ n <+: new.drop k ∧ ¬ new.drop k <+: n

instance : Decidable (Apart n new) := inferInstanceAs (Decidable (_ ∧ ∀ k < _, _))

/-- Texts without a common character are apart. -/
theorem Apart.of_forall_notMem (hn : n ≠ []) (hnew : new ≠ []) (h : ∀ c ∈ new, c ∉ n) : Apart n new := by
  obtain ⟨d, ds, rfl⟩ := List.exists_cons_of_ne_nil hnew
  refine ⟨?_, fun k hk => ⟨fun hshort => ?_, fun hlong => ?_⟩⟩
  · have hd : d ∉ n.tail := fun hmem => h d List.mem_cons_self (List.mem_of_mem_tail hmem)
    rw [List.head?_cons, Option.any_some]
    exact decide_eq_true hd
  · obtain ⟨e, hmem⟩ := List.exists_mem_of_ne_nil n hn
    exact h e (List.mem_of_mem_drop (hshort.subset hmem)) hmem
  · have hget : (d :: ds)[k] ∈ (d :: ds).drop k := by
      rw [List.drop_eq_getElem_cons hk]
      exact List.mem_cons_self
    exact h _ (List.getElem_mem hk) (hlong.subset hget)

theorem Apart.exists_cons (h : Apart n new) : ∃ d ds, new = d :: ds ∧ d ∉ n.tail := by
  cases new with
  | nil => cases h.1
  | cons d ds => exact ⟨d, ds, rfl, of_decide_eq_true h.1⟩

theorem Apart.not_prefix (h : Apart n (a ++ b)) (hb : b ≠ []) : ¬ n <+: b ++ s := by
  have hlength := List.length_pos_iff.mpr hb
  obtain ⟨hshort, hlong⟩ := h.2 a.length (by rw [List.length_append]; omega)
  rw [List.drop_left] at hshort hlong
  intro hprefix
  exact (List.prefix_or_prefix_of_prefix hprefix (List.prefix_append b s)).elim hshort hlong

theorem Apart.infix_of_infix_append (h : Apart n (a ++ b)) (hoccurs : n <:+: b ++ s) : n <:+: s := by
  induction b generalizing a with
  | nil => exact hoccurs
  | cons c b ih =>
    rcases List.infix_cons_iff.mp hoccurs with hprefix | hoccurs
    · exact absurd hprefix (h.not_prefix (List.cons_ne_nil c b))
    · exact ih (a := a ++ [c]) (by rwa [List.append_assoc]) hoccurs

/-- Where nothing is replaced, what the result begins with was there before. -/
theorem prefix_of_prefix_replace_cons {c : Char} (hold : old ≠ []) (hd : d ∉ n.tail)
    (hnone : dropStart? old (c :: s) = none) (h : n <+: replace old (d :: ds) (c :: s)) : n <+: c :: s := by
  rw [replace_cons (d :: ds) hold hnone] at h
  cases n with
  | nil => exact List.nil_prefix
  | cons e n =>
    obtain ⟨rfl, r, hr⟩ := List.cons_prefix_cons.mp h
    obtain ⟨r', rfl⟩ := eq_append_of_replace hold hd hr.symm
    exact List.prefix_append (e :: n) r'

/-- Replacing makes no new occurrence of a needle that the new text is apart from. -/
theorem infix_of_infix_replace (hnew : Apart n new) (hold : old ≠ []) (h : n <:+: replace old new s) : n <:+: s := by
  induction s using replace_induction old hold with
  | nil => rwa [replace_nil] at h
  | found s ih =>
    rw [replace_of_dropStart? new hold (dropStart?_append old s)] at h
    exact (ih (hnew.infix_of_infix_append (a := []) h)).trans (List.suffix_append old s).isInfix
  | skip c s hstart ih =>
    obtain ⟨d, ds, rfl, hd⟩ := hnew.exists_cons
    have hcons := replace_cons (d :: ds) hold hstart
    rw [hcons, List.infix_cons_iff, ← hcons] at h
    rcases h with h | h
    · exact (prefix_of_prefix_replace_cons hold hd hstart h).isInfix
    · exact List.infix_cons (ih h)

/-- Replacing leaves no occurrence when it makes none. -/
theorem not_infix_replace (hnew : Apart old new) (hold : old ≠ []) (s : Text) : ¬ old <:+: replace old new s := by
  induction s using replace_induction old hold with
  | nil =>
    rw [replace_nil, List.infix_nil]
    exact hold
  | found s ih =>
    rw [replace_of_dropStart? new hold (dropStart?_append old s)]
    exact fun h => ih (hnew.infix_of_infix_append (a := []) h)
  | skip c s hstart ih =>
    obtain ⟨d, ds, rfl, hd⟩ := hnew.exists_cons
    have hcons := replace_cons (d :: ds) hold hstart
    rw [hcons, List.infix_cons_iff, ← hcons, not_or]
    refine ⟨?_, ih⟩
    intro h
    exact dropStart?_eq_none_iff.mp hstart (prefix_of_prefix_replace_cons hold hd hstart h)

theorem replace_of_not_infix (new : Text) (hold : old ≠ []) (h : ¬ old <:+: s) : replace old new s = s := by
  rw [replace_of_cut? new hold, cut?_eq_none_iff.mpr h]

end Replace
end Markweave.Text
