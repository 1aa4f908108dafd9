import Markweave.Proofs.Source.Prepare

namespace Markweave.Html

/-- No bracket, and every `&` begins a reference. -/
structure LenientForm (s : Text) : Prop where
  lt : '<' ∉ s
  gt : '>' ∉ s
  references : ∀ u v, s = u ++ '&' :: v → BehindReference v

theorem lenientForm_escapeLenient (s : Text) : LenientForm (escapeLenient s) := by
  refine ⟨lt_notMem_escapeLenient s, gt_notMem_escapeLenient s, ?_⟩
  intro u v he
  have hneutral := Source.neutral_escapeLenient s
  rw [he] at hneutral
  exact opensReference_iff.mp hneutral.behind_amp

theorem LenientForm.tail {c : Char} {s : Text} (h : LenientForm (c :: s)) : LenientForm s := by
  refine ⟨fun hs => h.lt (List.mem_cons_of_mem c hs), fun hs => h.gt (List.mem_cons_of_mem c hs), ?_⟩
  intro u v he
  exact h.references (c :: u) v (congrArg (c :: ·) he)

theorem LenientForm.escapeLenient_eq {s : Text} (h : LenientForm s) : escapeLenient s = s := by
  induction s with
  | nil => rfl
  | cons c s ih =>
    have ih := ih h.tail
    by_cases hamp : c = '&'
    · subst hamp
      rw [escapeLenient, if_pos (opensReference_iff.mpr (h.references [] s rfl)), ih]
      rfl
    · have hplain : c ≠ '&' ∧ c ≠ '<' ∧ c ≠ '>' :=
        ⟨hamp, fun he => h.lt (by simp [he]), fun he => h.gt (by simp [he])⟩
      rw [escapeLenient_cons_plain hplain, ih]

/-- What strict escaping writes for a character is left alone: its `&` begins a reference. -/
theorem escapeLenient_escapeChar_append (c : Char) (s : Text) :
    escapeLenient (escapeChar c ++ s) = escapeChar c ++ escapeLenient s := by
  by_cases hc : c ∈ ['&', '<', '>', '"', '\'']
  · simp only [List.mem_cons, List.not_mem_nil, or_false] at hc
    rcases hc with rfl | rfl | rfl | rfl | rfl
    all_goals rfl
  · rw [escapeChar_of_notMem hc]
    simp only [List.mem_cons, List.not_mem_nil, or_false, not_or] at hc
    exact escapeLenient_cons_plain ⟨hc.1, hc.2.1, hc.2.2.1⟩ s

theorem escapeLenient_escape (s : Text) : escapeLenient (escape s) = escape s := by
  induction s with
  | nil => rfl
  | cons c s ih => rw [escape_cons, escapeLenient_escapeChar_append, ih]

/-- The texts that lenient escaping leaves alone are those of the normal form; all that it writes is of this form,
and so is what strict escaping writes. -/
theorem escapeLenient_normalizes (s : Text) :
    (escapeLenient s = s ↔ LenientForm s) ∧ LenientForm (escapeLenient s) ∧
      escapeLenient (escapeLenient s) = escapeLenient s ∧ escapeLenient (escape s) = escape s := by
  have hform := lenientForm_escapeLenient s
  refine ⟨⟨?_, LenientForm.escapeLenient_eq⟩, hform, hform.escapeLenient_eq, escapeLenient_escape s⟩
  intro h
  rwa [h] at hform

/-- A character is written strictly or as it is. -/
theorem escapeLenient_cons_cases (c : Char) (s : Text) :
    escapeLenient (c :: s) = escapeChar c ++ escapeLenient s ∨ escapeLenient (c :: s) = c :: escapeLenient s := by
  by_cases hamp : c = '&'
  · subst hamp
    rw [escapeLenient]
    split
    · exact .inr rfl
    · exact .inl rfl
  by_cases hlt : c = '<'
  · subst hlt
    exact .inl rfl
  by_cases hgt : c = '>'
  · subst hgt
    exact .inl rfl
  exact .inr (escapeLenient_cons_plain ⟨hamp, hlt, hgt⟩ s)

/-- Escaping what follows a character completes no reference. -/
theorem reference_read?_escapeLenient {c : Char} {s : Text} (h : reference.read? (c :: s) = none) :
    reference.read? (c :: escapeLenient s) = none := by
  apply Option.eq_none_iff_forall_not_mem.mpr
  rintro ⟨d, r⟩ hread
  obtain ⟨hd, he⟩ := reference_read?_eq_some_iff.mp hread
  obtain ⟨name, hname, hamp⟩ := escapeChar_of_mem hd
  rw [hname] at he
  obtain ⟨rfl, hs⟩ := List.cons.inj he
  obtain ⟨r', rfl, _⟩ := eq_append_of_escapeLenient hamp hs
  have hsome : reference.read? ('&' :: (name ++ r')) = some (d, r') :=
    reference_read?_eq_some_iff.mpr ⟨hd, by rw [hname]; rfl⟩
  rw [h] at hsome
  cases hsome

theorem unescape_escapeLenient (s : Text) : unescape (escapeLenient s) = unescape s := by
  induction s using reference.induction with
  | nil => rfl
  | found s c r hread ih =>
    obtain ⟨_, rfl⟩ := reference_read?_eq_some_iff.mp hread
    rw [escapeLenient_escapeChar_append, unescape_escapeChar_append, unescape_escapeChar_append, ih]
  | skip c s hread ih =>
    rw [unescape_cons hread]
    rcases escapeLenient_cons_cases c s with he | he
    · rw [he, unescape_escapeChar_append, ih]
    · rw [he, unescape_cons (reference_read?_escapeLenient hread), ih]

/-- A reader of strictly escaped text sees the text itself, in quotes of either kind too; lenient escaping does not
change what is seen. -/
theorem unescape_escaped (s : Text) :
    unescape (escape s) = s ∧ ('<' ∉ escape s ∧ '>' ∉ escape s ∧ '"' ∉ escape s ∧ '\'' ∉ escape s) ∧
      unescape (escapeLenient s) = unescape s := by
  refine ⟨unescape_escape s, ⟨?_, ?_, ?_, ?_⟩, unescape_escapeLenient s⟩
  all_goals exact notMem_escape (by decide) s

end Markweave.Html
