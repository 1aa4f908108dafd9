import Markweave.Proofs.Text.Occurrence
import Markweave.Source.Fence

namespace Markweave.Source

variable {n s a b outside code rest : Text}

/-- What stands outside the closed fences of a text, from the left; a fence without a partner is part of what it stands
in. -/
def outsideFences (s : Text) : List Text :=
  match _cut : cutFenced? s with
  | none => [s]
  | some (before, _, after) => before :: outsideFences after
termination_by s.length
decreasing_by exact length_of_cutFenced? _cut

/-- A needle stands somewhere in a text with no closed fences around it. -/
def OccursOutsideFences (n s : Text) : Prop := ∃ t ∈ outsideFences s, n <:+: t

instance : Decidable (OccursOutsideFences n s) := inferInstanceAs (Decidable (∃ t ∈ _, _))

/-- Some fence of the text has no partner in it. -/
abbrev HasOpenFence (s : Text) : Prop := OccursOutsideFences fence s

theorem outsideFences_of_none (h : cutFenced? s = none) : outsideFences s = [s] := by
  rw [outsideFences]
  split
  · rfl
  · next hcut => cases h.symm.trans hcut

theorem outsideFences_of_some (h : cutFenced? s = some (outside, code, rest)) :
    outsideFences s = outside :: outsideFences rest := by
  rw [outsideFences]
  split
  · next hcut => cases h.symm.trans hcut
  · next hcut =>
    obtain ⟨rfl, rfl, rfl⟩ := by simpa using h.symm.trans hcut
    rfl

theorem cutFenced?_eq_some_iff : cutFenced? s = some (outside, code, rest) ↔
    ∃ t, Text.cut? fence s = some (outside, t) ∧ Text.cut? fence t = some (code, rest) := by
  rw [cutFenced?]
  cases Text.cut? fence s with
  | none => simp
  | some pair =>
    obtain ⟨before, t⟩ := pair
    simp only [Option.map_eq_some_iff, Prod.mk.injEq, Option.some.injEq, Prod.exists]
    constructor
    · rintro ⟨x, y, hcut, rfl, rfl, rfl⟩
      exact ⟨t, ⟨rfl, rfl⟩, hcut⟩
    · rintro ⟨_, ⟨rfl, rfl⟩, hcut⟩
      exact ⟨code, rest, hcut, rfl, rfl, rfl⟩

theorem fence_ne_nil : fence ≠ [] := List.cons_ne_nil _ _

theorem not_infix_of_cutFenced? (h : cutFenced? s = some (outside, code, rest)) : ¬ fence <:+: outside := by
  obtain ⟨t, hopen, _⟩ := cutFenced?_eq_some_iff.mp h
  exact Text.not_infix_of_cut? fence_ne_nil hopen

/-- What follows two fences is not looked at. -/
theorem cutFenced?_append_of_cutFenced? (h : cutFenced? s = some (outside, code, rest)) (r : Text) :
    cutFenced? (outside ++ fence ++ code ++ fence ++ r) = some (outside, code, r) := by
  obtain ⟨t, hopen, hclose⟩ := cutFenced?_eq_some_iff.mp h
  refine cutFenced?_eq_some_iff.mpr ⟨code ++ fence ++ r, ?_, Text.cut?_append_of_cut? hclose r⟩
  have happ := Text.cut?_append_of_cut? hopen (code ++ fence ++ r)
  simpa using happ

theorem cutFenced?_append (h : cutFenced? s = some (outside, code, rest)) (r : Text) :
    cutFenced? (s ++ r) = some (outside, code, rest ++ r) := by
  rw [eq_append_of_cutFenced? h, List.append_assoc]
  exact cutFenced?_append_of_cutFenced? h (rest ++ r)

theorem cutFenced?_of_append (h : cutFenced? (a ++ b) = none) : cutFenced? a = none := by
  cases hcut : cutFenced? a with
  | none => rfl
  | some cut => cases h.symm.trans (cutFenced?_append hcut b)

theorem cutFenced?_of_not_infix (h : ¬ fence <:+: s) : cutFenced? s = none := by
  rw [cutFenced?, Text.cut?_eq_none_iff.mpr h]

theorem cutFenced?_ne_none (ha : fence <:+: a) (hb : fence <:+: b) : cutFenced? (a ++ b) ≠ none := by
  obtain ⟨before, t, hopen⟩ := Text.exists_cut?_of_infix ha
  obtain ⟨code, rest, hclose⟩ := Text.exists_cut?_of_infix (hb.trans (List.suffix_append t b).isInfix)
  rw [cutFenced?_eq_some_iff.mpr ⟨t ++ b, Text.cut?_append hopen b, hclose⟩]
  exact Option.some_ne_none _

theorem occursOutsideFences_of_none (n : Text) (h : cutFenced? s = none) : OccursOutsideFences n s ↔ n <:+: s := by
  simp [OccursOutsideFences, outsideFences_of_none h]

theorem occursOutsideFences_of_some (n : Text) (h : cutFenced? s = some (outside, code, rest)) :
    OccursOutsideFences n s ↔ n <:+: outside ∨ OccursOutsideFences n rest := by
  simp [OccursOutsideFences, outsideFences_of_some h]

theorem hasOpenFence_of_none (h : cutFenced? s = none) : HasOpenFence s ↔ fence <:+: s :=
  occursOutsideFences_of_none fence h

theorem hasOpenFence_of_some (h : cutFenced? s = some (outside, code, rest)) : HasOpenFence s ↔ HasOpenFence rest := by
  simp [occursOutsideFences_of_some fence h, not_infix_of_cutFenced? h]

theorem fence_eq_replicate : fence = List.replicate 3 '`' := rfl

theorem notMem_fence {d : Char} (hd : d ≠ '`') : d ∉ fence := by
  rw [fence_eq_replicate]
  exact fun h => hd (List.eq_of_mem_replicate h)

theorem forall_notMem_fence (h : '`' ∉ s) : ∀ c ∈ s, c ∉ fence := fun _ hc => notMem_fence fun he => h (he ▸ hc)

/-- Text without a fence closes none that is open before it. -/
theorem cutFenced?_append_cons_eq_none {d : Char} (hd : d ∉ fence) (ha : cutFenced? a = none)
    (hb : ¬ fence <:+: b) : cutFenced? (a ++ d :: b) = none := by
  rw [cutFenced?]
  by_cases hopen : fence <:+: a
  · obtain ⟨before, t, hcut⟩ := Text.exists_cut?_of_infix hopen
    have ht : ¬ fence <:+: t := by
      rw [← Text.cut?_eq_none_iff]
      rwa [cutFenced?, hcut, Option.map_eq_none_iff] at ha
    rw [Text.cut?_append hcut]
    dsimp only
    rw [Text.cut?_append_cons hd ht, Text.cut?_eq_none_iff.mpr hb]
    rfl
  · rw [Text.cut?_append_cons hd hopen, Text.cut?_eq_none_iff.mpr hb]
    rfl

/-- Text without a backtick goes on in the first part of the text behind it. -/
theorem cutFenced?_prepend {x : Text} (hx : ∀ c ∈ x, c ∉ fence) (s : Text) :
    cutFenced? (x ++ s) = (cutFenced? s).map fun (outside, code, rest) => (x ++ outside, code, rest) := by
  rw [cutFenced?, cutFenced?, Text.cut?_append_of_forall_notMem hx fence_ne_nil]
  cases Text.cut? fence s with
  | none => rfl
  | some cut => simp [Option.map_map, Function.comp_def]

theorem occursOutsideFences_prepend {x : Text} (hx : ∀ c ∈ x, c ∉ fence) (h : n <:+: x ∨ OccursOutsideFences n s) :
    OccursOutsideFences n (x ++ s) := by
  cases hcut : cutFenced? s with
  | none =>
    rw [occursOutsideFences_of_none n hcut] at h
    rw [occursOutsideFences_of_none n (by rw [cutFenced?_prepend hx, hcut]; rfl)]
    rcases h with h | h
    · exact h.trans (List.prefix_append x s).isInfix
    · exact h.trans (List.suffix_append x s).isInfix
  | some cut =>
    obtain ⟨outside, code, rest⟩ := cut
    rw [occursOutsideFences_of_some n hcut] at h
    rw [occursOutsideFences_of_some n (by rw [cutFenced?_prepend hx, hcut]; rfl)]
    rcases h with h | h | h
    · exact .inl (h.trans (List.prefix_append x outside).isInfix)
    · exact .inl (h.trans (List.suffix_append x outside).isInfix)
    · exact .inr h

section Plain

variable {d : Char} (hd : d ∉ fence) (hdn : d ∉ n) (hne : n ≠ [])
include hd hdn hne

/-- A character of neither kind adds no occurrence before a text. -/
theorem occursOutsideFences_of_cons (h : OccursOutsideFences n (d :: s)) : OccursOutsideFences n s := by
  have hprepend := cutFenced?_prepend (x := [d]) (by simpa using hd) s
  rw [List.singleton_append] at hprepend
  have hinfix : ∀ {t}, n <:+: d :: t → n <:+: t := Text.infix_of_infix_append (x := [d]) (by simpa using hdn) hne
  cases hcut : cutFenced? s with
  | none =>
    rw [occursOutsideFences_of_none n (by rw [hprepend, hcut]; rfl)] at h
    rw [occursOutsideFences_of_none n hcut]
    exact hinfix h
  | some cut =>
    obtain ⟨outside, code, rest⟩ := cut
    rw [occursOutsideFences_of_some n (by rw [hprepend, hcut]; rfl)] at h
    rw [occursOutsideFences_of_some n hcut]
    exact h.imp_left hinfix

theorem occursOutsideFences_of_concat (h : OccursOutsideFences n (s ++ [d])) : OccursOutsideFences n s := by
  have hinfix : ∀ {t}, n <:+: t ++ [d] → n <:+: t := fun h =>
    ((Text.infix_append_cons_iff hdn).mp h).resolve_right fun hnil => hne (List.infix_nil.mp hnil)
  fun_induction outsideFences s with
  | case1 s hnone =>
    have hfence : ¬ fence <:+: [] := by decide
    rw [occursOutsideFences_of_none n (cutFenced?_append_cons_eq_none hd hnone hfence)] at h
    rw [occursOutsideFences_of_none n hnone]
    exact hinfix h
  | case2 s outside code rest hsome ih =>
    rw [occursOutsideFences_of_some n (cutFenced?_append hsome [d])] at h
    rw [occursOutsideFences_of_some n hsome]
    exact h.imp_right ih

end Plain

theorem occursOutsideFences_iff_of_notMem (hs : '`' ∉ s) : OccursOutsideFences n s ↔ n <:+: s := by
  refine occursOutsideFences_of_none n ?_
  exact cutFenced?_of_not_infix fun h => hs (h.subset List.mem_cons_self)

/-- Before what the search finds there is no occurrence outside closed fences, and a fence that is open there is
closed nowhere. -/
theorem free_of_cutOutsideFences? (hne : n ≠ []) (h : cutOutsideFences? n s = some (b, a)) :
    ¬ OccursOutsideFences n b ∧ (HasOpenFence b → ¬ fence <:+: a) := by
  fun_induction cutOutsideFences? n s generalizing b a with
  | case1 s hcut => cases h
  | case2 s before after hcut hnone =>
    obtain ⟨rfl, rfl⟩ := Prod.mk.inj (Option.some.inj h)
    rw [Text.eq_append_of_cut? hcut] at hnone
    have hbefore : cutFenced? before = none := cutFenced?_of_append (cutFenced?_of_append hnone)
    rw [occursOutsideFences_of_none n hbefore, hasOpenFence_of_none hbefore]
    refine ⟨Text.not_infix_of_cut? hne hcut, fun hopen hclose => cutFenced?_ne_none ?_ hclose hnone⟩
    exact hopen.trans (List.prefix_append before n).isInfix
  | case3 s before after hcut outside code rest hsome hlt ih =>
    obtain ⟨⟨x, y⟩, hrest, he⟩ := Option.map_eq_some_iff.mp h
    obtain ⟨rfl, rfl⟩ := Prod.mk.inj he
    obtain ⟨hfree, hopen⟩ := ih hrest
    have hb := cutFenced?_append_of_cutFenced? hsome x
    rw [hasOpenFence_of_some hb, occursOutsideFences_of_some n hb, not_or]
    refine ⟨⟨fun hinfix => ?_, hfree⟩, hopen⟩
    obtain ⟨t, hfence, _⟩ := cutFenced?_eq_some_iff.mp hsome
    have := Text.length_lt_of_infix hne hfence hcut hinfix
    omega
  | case4 s before after hcut outside code rest hsome hlt =>
    obtain ⟨rfl, rfl⟩ := Prod.mk.inj (Option.some.inj h)
    obtain ⟨t, hfence, _⟩ := cutFenced?_eq_some_iff.mp hsome
    have hnot : ¬ fence <:+: before := fun hinfix => hlt (Text.length_lt_of_infix fence_ne_nil hcut hfence hinfix)
    have hbefore := cutFenced?_of_not_infix hnot
    rw [occursOutsideFences_of_none n hbefore, hasOpenFence_of_none hbefore]
    exact ⟨Text.not_infix_of_cut? hne hcut, fun hopen => absurd hopen hnot⟩

/-- A needle is found behind a text without an occurrence outside closed fences. -/
theorem cutOutsideFences?_append (hn : Text.Unbordered n) (hne : n ≠ []) (htick : '`' ∉ n)
    (hfree : ¬ OccursOutsideFences n b) (hopen : HasOpenFence b → ¬ fence <:+: a) :
    cutOutsideFences? n (b ++ n ++ a) = some (b, a) := by
  fun_induction outsideFences b with
  | case1 b hnone =>
    rw [occursOutsideFences_of_none n hnone] at hfree
    rw [hasOpenFence_of_none hnone] at hopen
    have hcut := Text.cut?_append_of_not_infix hn hfree a
    rw [cutOutsideFences?, hcut]
    dsimp only
    split
    · rfl
    · next outside code rest hsome =>
      have hother := forall_notMem_fence htick
      obtain ⟨d, n, rfl⟩ := List.exists_cons_of_ne_nil hne
      rw [List.forall_mem_cons] at hother
      have hb : ¬ fence <:+: b := by
        intro hinfix
        have ha : ¬ fence <:+: n ++ a := fun h => hopen hinfix (Text.infix_of_infix_append hother.2 fence_ne_nil h)
        have hnot := cutFenced?_append_cons_eq_none hother.1 hnone ha
        rw [List.append_assoc] at hsome
        cases hnot.symm.trans hsome
      obtain ⟨t, hfence, _⟩ := cutFenced?_eq_some_iff.mp hsome
      have hlength := Text.length_lt_of_not_infix rfl hother.1 hcut hfence hb
      exact if_neg (by omega)
  | case2 b outside code rest hsome ih =>
    rw [occursOutsideFences_of_some n hsome, not_or] at hfree
    rw [hasOpenFence_of_some hsome] at hopen
    have hrest := ih hfree.2 hopen
    have hcut : cutFenced? (b ++ n ++ a) = some (outside, code, rest ++ n ++ a) := by
      simpa using cutFenced?_append hsome (n ++ a)
    obtain ⟨t, hfence, _⟩ := cutFenced?_eq_some_iff.mp hcut
    obtain ⟨x, y, hneedle⟩ := Text.exists_cut?_of_infix (List.infix_append b n a)
    have hlength := Text.length_lt_of_not_infix rfl htick hfence hneedle hfree.1
    rw [cutOutsideFences?, hneedle]
    dsimp only
    split
    · next hnone => cases hnone.symm.trans hcut
    · next hsome' =>
      obtain ⟨rfl, rfl, rfl⟩ := by simpa only [Option.some.injEq, Prod.mk.injEq] using hcut.symm.trans hsome'
      rw [if_pos hlength, hrest, eq_append_of_cutFenced? hsome]
      rfl

end Markweave.Source
