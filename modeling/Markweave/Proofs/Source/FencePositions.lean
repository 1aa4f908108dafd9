import Mathlib.Order.Bounds.Basic
import Markweave.Proofs.Source.OutsideFences

namespace Markweave.Source

variable {n s a b outside code rest : Text} {i : Nat}

/-- Where the fences of a text begin, from the left and without overlap. -/
def fenceStarts : Text → List Nat
  | '`' :: '`' :: '`' :: s => 0 :: (fenceStarts s).map (3 + ·)
  | _ :: s => (fenceStarts s).map (1 + ·)
  | [] => []

/-- Neighbours in pairs, from the left; a last one may be left over. -/
def inPairs : List Nat → List (Nat × Nat)
  | first :: second :: more => (first, second) :: inPairs more
  | _ => []

/-- The position lies between the beginning of a fence and the end of the fence it is paired with. -/
def InsideFences (s : Text) (i : Nat) : Prop :=
  ∃ pair ∈ inPairs (fenceStarts s), pair.1 ≤ i ∧ i < pair.2 + fence.length

instance (s : Text) (i : Nat) : Decidable (InsideFences s i) := inferInstanceAs (Decidable (∃ pair ∈ _, _))

/-- The positions where a needle stands with no closed fences around it. -/
def positionsOutside (n s : Text) : Set Nat := {i | n <+: s.drop i ∧ ¬ InsideFences s i}

theorem fenceStarts_fence (s : Text) : fenceStarts (fence ++ s) = 0 :: (fenceStarts s).map (3 + ·) := rfl

theorem fenceStarts_cons {c : Char} (h : Text.dropStart? fence (c :: s) = none) :
    fenceStarts (c :: s) = (fenceStarts s).map (1 + ·) := by
  rw [fenceStarts]
  rintro t rfl rfl
  cases h.symm.trans (Text.dropStart?_append fence t)

theorem fenceStarts_of_none (h : Text.cut? fence s = none) : fenceStarts s = [] := by
  induction s with
  | nil => rfl
  | cons c s ih =>
    rw [Text.cut?] at h
    split at h
    · cases h
    · next hstart => rw [fenceStarts_cons hstart, ih (Option.map_eq_none_iff.mp h), List.map_nil]

theorem fenceStarts_of_some (h : Text.cut? fence s = some (a, b)) :
    fenceStarts s = a.length :: (fenceStarts b).map (a.length + fence.length + ·) := by
  induction s generalizing a with
  | nil => cases h
  | cons c s ih =>
    rw [Text.cut?] at h
    split at h
    · next r hstart =>
      obtain ⟨rfl, rfl⟩ := Prod.mk.inj (Option.some.inj h)
      rw [Text.eq_append_of_dropStart? hstart, fenceStarts_fence]
      rfl
    · next hstart =>
      obtain ⟨⟨x, y⟩, hcut, he⟩ := Option.map_eq_some_iff.mp h
      obtain ⟨rfl, rfl⟩ := Prod.mk.inj he
      rw [fenceStarts_cons hstart, ih hcut, List.map_cons, List.map_map, List.length_cons, Nat.add_comm 1]
      congr 2
      funext k
      simp only [Function.comp_apply]
      omega

theorem inPairs_map (f : Nat → Nat) (starts : List Nat) :
    inPairs (starts.map f) = (inPairs starts).map (Prod.map f f) := by
  fun_induction inPairs starts with
  | case1 first second more ih => simp [inPairs, ih]
  | case2 starts hshort =>
    match starts with
    | [] => rfl
    | [_] => rfl
    | first :: second :: more => exact absurd rfl (hshort first second more)

theorem not_insideFences_of_none (h : cutFenced? s = none) : ¬ InsideFences s i := by
  have hpairs : inPairs (fenceStarts s) = [] := by
    cases hopen : Text.cut? fence s with
    | none =>
      rw [fenceStarts_of_none hopen]
      rfl
    | some cut =>
      rw [cutFenced?, hopen, Option.map_eq_none_iff] at h
      rw [fenceStarts_of_some hopen, fenceStarts_of_none h]
      rfl
  rw [InsideFences, hpairs]
  rintro ⟨pair, hpair, _⟩
  exact List.not_mem_nil hpair

section Pair

variable (h : cutFenced? s = some (outside, code, rest))
include h

/-- The first two fences are a pair, and behind them the positions go on as in the text that follows. -/
theorem inPairs_fenceStarts : inPairs (fenceStarts s) =
    (outside.length, outside.length + fence.length + code.length) ::
      (inPairs (fenceStarts rest)).map (Prod.map ((outside ++ fence ++ code ++ fence).length + ·)
        ((outside ++ fence ++ code ++ fence).length + ·)) := by
  obtain ⟨t, hopen, hclose⟩ := cutFenced?_eq_some_iff.mp h
  rw [fenceStarts_of_some hopen, fenceStarts_of_some hclose, List.map_cons, List.map_map, inPairs, inPairs_map]
  simp [Function.comp_def, Nat.add_assoc]

theorem insideFences_of_lt (hi : i < (outside ++ fence ++ code ++ fence).length) :
    InsideFences s i ↔ outside.length ≤ i := by
  simp only [List.length_append] at hi
  rw [InsideFences, inPairs_fenceStarts h]
  constructor
  · rintro ⟨pair, hpair, hle, _⟩
    rcases List.mem_cons.mp hpair with rfl | hpair
    · exact hle
    · obtain ⟨q, _, rfl⟩ := List.mem_map.mp hpair
      simp only [Prod.map_fst, List.length_append] at hle
      omega
  · intro hle
    exact ⟨_, List.mem_cons_self, hle, hi⟩

theorem insideFences_add (j : Nat) :
    InsideFences s ((outside ++ fence ++ code ++ fence).length + j) ↔ InsideFences rest j := by
  rw [InsideFences, InsideFences, inPairs_fenceStarts h]
  constructor
  · rintro ⟨pair, hpair, hle, hlt⟩
    rcases List.mem_cons.mp hpair with rfl | hpair
    · simp only [List.length_append] at hlt
      omega
    · obtain ⟨q, hq, rfl⟩ := List.mem_map.mp hpair
      simp only [Prod.map_fst, Prod.map_snd] at hle hlt
      exact ⟨q, hq, by omega, by omega⟩
  · rintro ⟨q, hq, hle, hlt⟩
    refine ⟨_, List.mem_cons_of_mem _ (List.mem_map_of_mem hq), ?_, ?_⟩
    · exact Nat.add_le_add_left hle _
    · rw [Prod.map_snd, Nat.add_assoc]
      exact Nat.add_lt_add_left hlt _

theorem drop_add (j : Nat) : s.drop ((outside ++ fence ++ code ++ fence).length + j) = rest.drop j := by
  rw [eq_append_of_cutFenced? h, List.drop_length_add_append]

end Pair

example : InsideFences "x````--->```y" 11 ∧ ¬ InsideFences "x````--->```y" 12 := by decide

/-- The cut is at the first position where the needle stands. -/
theorem not_prefix_drop_of_cut? (h : Text.cut? n s = some (a, b)) (hi : i < a.length) : ¬ n <+: s.drop i := by
  induction s generalizing a i with
  | nil =>
    rw [Text.cut?, Option.map_eq_some_iff] at h
    obtain ⟨_, _, he⟩ := h
    obtain rfl := (Prod.mk.inj he).1
    exact absurd hi (Nat.not_lt_zero i)
  | cons c s ih =>
    rw [Text.cut?] at h
    split at h
    · obtain rfl := (Prod.mk.inj (Option.some.inj h)).1
      exact absurd hi (Nat.not_lt_zero i)
    · next hstart =>
      obtain ⟨⟨x, y⟩, hcut, he⟩ := Option.map_eq_some_iff.mp h
      obtain ⟨rfl, rfl⟩ := Prod.mk.inj he
      cases i with
      | zero => exact Text.dropStart?_eq_none_iff.mp hstart
      | succ i => exact ih hcut (Nat.lt_of_succ_lt_succ hi)

theorem prefix_drop_of_cut? (h : Text.cut? n s = some (a, b)) : n <+: s.drop a.length := by
  rw [Text.eq_append_of_cut? h, List.append_assoc, List.drop_left]
  exact List.prefix_append n b

/-- Where no pair is around the first occurrence it is the least position. -/
theorem isLeast_of_cut? (h : Text.cut? n s = some (a, b)) (houtside : ¬ InsideFences s a.length) :
    IsLeast (positionsOutside n s) a.length := by
  refine ⟨⟨prefix_drop_of_cut? h, houtside⟩, ?_⟩
  rintro i ⟨hstands, _⟩
  exact Nat.not_lt.mp fun hi => not_prefix_drop_of_cut? h hi hstands

/-- Where the first occurrence is behind the first fence, the positions are those behind the pair. -/
theorem mem_positionsOutside_iff (hneedle : Text.cut? n s = some (a, b))
    (h : cutFenced? s = some (outside, code, rest)) (hlt : outside.length < a.length) :
    i ∈ positionsOutside n s ↔
      ∃ j ∈ positionsOutside n rest, i = (outside ++ fence ++ code ++ fence).length + j := by
  constructor
  · rintro ⟨hstands, houtside⟩
    by_cases hi : i < (outside ++ fence ++ code ++ fence).length
    · rw [insideFences_of_lt h hi, Nat.not_le] at houtside
      exact absurd hstands (not_prefix_drop_of_cut? hneedle (Nat.lt_trans houtside hlt))
    · obtain ⟨j, rfl⟩ := Nat.exists_eq_add_of_le (Nat.not_lt.mp hi)
      rw [drop_add h] at hstands
      rw [insideFences_add h] at houtside
      exact ⟨j, ⟨hstands, houtside⟩, rfl⟩
  · rintro ⟨j, ⟨hstands, houtside⟩, rfl⟩
    refine ⟨?_, ?_⟩
    · rwa [drop_add h]
    · rwa [insideFences_add h]

/-- By induction over the pairs that the search steps over. -/
theorem isLeast_of_cutOutsideFences? (hne : n ≠ []) (htick : '`' ∉ n) (h : cutOutsideFences? n s = some (a, b)) :
    IsLeast (positionsOutside n s) a.length := by
  fun_induction cutOutsideFences? n s generalizing a b with
  | case1 => cases h
  | case2 s before after hcut hnone =>
    obtain ⟨rfl, rfl⟩ := Prod.mk.inj (Option.some.inj h)
    exact isLeast_of_cut? hcut (not_insideFences_of_none hnone)
  | case3 s before after hcut outside code rest hsome hlt ih =>
    obtain ⟨⟨x, y⟩, hrest, he⟩ := Option.map_eq_some_iff.mp h
    obtain ⟨rfl, rfl⟩ := Prod.mk.inj he
    obtain ⟨hmem, hleast⟩ := ih hrest
    rw [List.length_append]
    refine ⟨(mem_positionsOutside_iff hcut hsome hlt).mpr ⟨_, hmem, rfl⟩, ?_⟩
    intro i hi
    obtain ⟨j, hj, rfl⟩ := (mem_positionsOutside_iff hcut hsome hlt).mp hi
    exact Nat.add_le_add_left (hleast hj) _
  | case4 s before after hcut outside code rest hsome hle =>
    obtain ⟨rfl, rfl⟩ := Prod.mk.inj (Option.some.inj h)
    refine isLeast_of_cut? hcut ?_
    have hlt : before.length < outside.length := by
      obtain ⟨t, hfence, _⟩ := cutFenced?_eq_some_iff.mp hsome
      have hnot : ¬ fence <:+: before := fun hinfix => hle (Text.length_lt_of_infix fence_ne_nil hcut hfence hinfix)
      exact Text.length_lt_of_not_infix (List.head?_eq_some_head hne)
        (forall_notMem_fence htick _ (List.head_mem hne)) hcut hfence hnot
    rw [insideFences_of_lt hsome (by simp only [List.length_append]; omega)]
    omega

theorem positionsOutside_of_cutOutsideFences? (h : cutOutsideFences? n s = none) : positionsOutside n s = ∅ := by
  apply Set.eq_empty_of_forall_notMem
  fun_induction cutOutsideFences? n s with
  | case1 s hcut =>
    rintro i ⟨hstands, _⟩
    exact Text.cut?_eq_none_iff.mp hcut (hstands.isInfix.trans (List.drop_suffix i s).isInfix)
  | case2 => cases h
  | case3 s before after hcut outside code rest hsome hlt ih =>
    intro i hi
    obtain ⟨j, hj, _⟩ := (mem_positionsOutside_iff hcut hsome hlt).mp hi
    exact ih (Option.map_eq_none_iff.mp h) j hj
  | case4 => cases h

/-- The search cuts a text at the least position of the needle that no closed fences are around, and finds nothing
exactly when there is no such position. -/
theorem cutOutsideFences?_finds_least (hne : n ≠ []) (htick : '`' ∉ n) (s : Text) :
    (∀ before after, cutOutsideFences? n s = some (before, after) ↔
      s = before ++ n ++ after ∧ IsLeast (positionsOutside n s) before.length) ∧
    (cutOutsideFences? n s = none ↔ positionsOutside n s = ∅) := by
  refine ⟨fun before after => ⟨fun h => ?_, ?_⟩, positionsOutside_of_cutOutsideFences?, ?_⟩
  · exact ⟨eq_append_of_cutOutsideFences? h, isLeast_of_cutOutsideFences? hne htick h⟩
  · rintro ⟨hs, hleast⟩
    cases h : cutOutsideFences? n s with
    | none => exact absurd (positionsOutside_of_cutOutsideFences? h) hleast.nonempty.ne_empty
    | some cut =>
      obtain ⟨x, y⟩ := cut
      have hlength := (isLeast_of_cutOutsideFences? hne htick h).unique hleast
      have hcut := eq_append_of_cutOutsideFences? h
      rw [hs, List.append_assoc, List.append_assoc] at hcut
      obtain ⟨rfl, hrest⟩ := List.append_inj hcut hlength.symm
      rw [List.append_cancel_left hrest]
  · intro hempty
    cases h : cutOutsideFences? n s with
    | none => rfl
    | some cut => exact absurd hempty (isLeast_of_cutOutsideFences? hne htick h).nonempty.ne_empty

/-- The needle stands between four backticks and three, behind this pair, and behind a fence without a partner. -/
def needleAroundFences : Text := "x````--->```y--->```--->"

theorem cutOutsideFences?_finds_least_around_fences :
    ("--->".toList ≠ [] ∧ '`' ∉ "--->".toList) ∧
    cutOutsideFences? "--->" needleAroundFences = some ("x````--->```y".toList, "```--->".toList) ∧
    IsLeast (positionsOutside "--->" needleAroundFences) 13 := by
  have hneedle : "--->".toList ≠ [] ∧ '`' ∉ "--->".toList := by decide
  have hfound : cutOutsideFences? "--->" needleAroundFences = some ("x````--->```y".toList, "```--->".toList) := by
    decide +kernel
  obtain ⟨hcut, _⟩ := cutOutsideFences?_finds_least hneedle.1 hneedle.2 needleAroundFences
  exact ⟨hneedle, hfound, ((hcut _ _).mp hfound).2⟩

end Markweave.Source
