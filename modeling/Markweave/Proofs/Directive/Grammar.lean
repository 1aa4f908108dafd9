import Markweave.Directive.Grammar
import Markweave.Proofs.Text.Segments

namespace Markweave

namespace Text

variable {p : Char → Bool}

/-- A character is kept or cut off the end. -/
theorem mem_dropEndWhile_or {c : Char} {s : Text} (h : c ∈ s) : c ∈ s.dropEndWhile p ∨ p c = true := by
  have hsplit := List.takeWhile_append_dropWhile (p := p) (l := s.reverse)
  rw [← List.mem_reverse, ← hsplit, List.mem_append] at h
  rcases h with h | h
  · exact .inr (List.all_eq_true.mp List.all_takeWhile c h)
  · exact .inl (List.mem_reverse.mpr h)

theorem mem_trimWhile_or {c : Char} {s : Text} (h : c ∈ s) : c ∈ s.trimWhile p ∨ p c = true := by
  rw [← List.takeWhile_append_dropWhile (p := p) (l := s), List.mem_append] at h
  rcases h with h | h
  · exact .inr (List.all_eq_true.mp List.all_takeWhile c h)
  · exact mem_dropEndWhile_or h

theorem dropEndWhile_append {a : Text} (ha : ∀ c ∈ a, p c = false) (s : Text) :
    dropEndWhile p (a ++ s) = a ++ dropEndWhile p s := by
  have hkeep : a.reverse.dropWhile p = a.reverse := by
    cases he : a.reverse with
    | nil => rfl
    | cons c r =>
      have hc : c ∈ a := List.mem_reverse.mp (by rw [he]; exact List.mem_cons_self)
      exact List.dropWhile_cons_of_neg (by simp [ha c hc])
  rw [dropEndWhile, List.reverse_append, List.dropWhile_append, hkeep]
  split
  · next h => simp [dropEndWhile, List.isEmpty_iff.mp h]
  · simp [dropEndWhile]

end Text

namespace Directive

variable {k l s r raw : Text}

/-- A keyword begins a text in some spelling with small letters and capitals. -/
theorem dropKeyword?_eq_some_iff : dropKeyword? k s = some r ↔ ∃ t, t.map Char.toUpper = k ∧ s = t ++ r := by
  induction k generalizing s with
  | nil => simp [dropKeyword?, eq_comm]
  | cons c k ih =>
    cases s with
    | nil =>
      refine iff_of_false (by simp [dropKeyword?]) ?_
      rintro ⟨t, ht, he⟩
      rw [(List.append_eq_nil_iff.mp he.symm).1] at ht
      cases ht
    | cons d s =>
      rw [dropKeyword?]
      split
      · next hd =>
        rw [ih]
        constructor
        · rintro ⟨t, rfl, rfl⟩
          exact ⟨d :: t, by rw [List.map_cons, hd], rfl⟩
        · rintro ⟨t, ht, he⟩
          obtain ⟨e, t, rfl, _, hmap⟩ := List.map_eq_cons_iff.mp ht
          exact ⟨t, hmap, (List.cons.inj he).2⟩
      · next hd =>
        refine iff_of_false (by simp) ?_
        rintro ⟨t, ht, he⟩
        obtain ⟨e, t, rfl, rfl, _⟩ := List.map_eq_cons_iff.mp ht
        exact hd (congrArg Char.toUpper (List.cons.inj he).1)

/-- Of two keywords that begin one text, one begins the other. -/
theorem prefix_or_prefix_of_dropKeyword? (hk : (dropKeyword? k s).isSome) (hl : (dropKeyword? l s).isSome) :
    k <+: l ∨ l <+: k := by
  obtain ⟨r, hr⟩ := Option.isSome_iff_exists.mp hk
  obtain ⟨u, hu⟩ := Option.isSome_iff_exists.mp hl
  obtain ⟨a, rfl, rfl⟩ := dropKeyword?_eq_some_iff.mp hr
  obtain ⟨b, rfl, he⟩ := dropKeyword?_eq_some_iff.mp hu
  rcases List.prefix_or_prefix_of_prefix (List.prefix_append a r) (he ▸ List.prefix_append b u) with h | h
  · exact .inl (h.map _)
  · exact .inr (h.map _)

section Read

variable {kind : DirectiveKind} {ks : List (Text × DirectiveKind)} {allows : Char → Bool}

theorem Form.read?_cons_of_all (h : dropKeyword? k raw = some r)
    (hall : (Text.trimWhile (· == ' ') r).all allows = true) :
    Form.read? ⟨(k, kind) :: ks, allows⟩ raw = some ⟨kind, Text.trimWhile (· == ' ') r⟩ := by
  simp only [Form.read?, List.findSome?_cons, h, Option.bind_eq_bind, Option.bind_some, hall, if_true]

theorem Form.read?_cons_of_not_all (h : dropKeyword? k raw = some r)
    (hall : ¬ (Text.trimWhile (· == ' ') r).all allows = true) :
    Form.read? ⟨(k, kind) :: ks, allows⟩ raw = Form.read? ⟨ks, allows⟩ raw := by
  simp only [Form.read?, List.findSome?_cons, h, Option.bind_eq_bind, Option.bind_some, hall,
    Bool.false_eq_true, if_false]

theorem Form.read?_cons_of_none (h : dropKeyword? k raw = none) :
    Form.read? ⟨(k, kind) :: ks, allows⟩ raw = Form.read? ⟨ks, allows⟩ raw := by
  simp only [Form.read?, List.findSome?_cons, h, Option.bind_eq_bind, Option.bind_none]

end Read

/-- A form reads a text by one of its keywords. The parameter is the rest without the spaces around it. -/
theorem Form.exists_keyword_of_read? {f : Form} {d : Directive} (h : f.read? raw = some d) :
    ∃ keyword rest, (keyword, d.kind) ∈ f.keywords ∧ dropKeyword? keyword raw = some rest ∧
      d.param = rest.trimWhile (· == ' ') ∧ d.param.all f.allows = true := by
  obtain ⟨⟨keyword, kind⟩, hmem, hkeyword⟩ := List.exists_of_findSome?_eq_some h
  obtain ⟨rest, hrest, hparam⟩ := Option.bind_eq_some_iff.mp hkeyword
  dsimp only at hparam
  split at hparam
  · next hall =>
    obtain rfl := Option.some.inj hparam
    exact ⟨keyword, rest, hmem, hrest, rfl, hall⟩
  · cases hparam

/-- A parameter is made of characters of its comment. -/
theorem mem_of_mem_param {d : Directive} (h : recognize? raw = some d) {c : Char} (hc : c ∈ d.param) : c ∈ raw := by
  obtain ⟨f, _, hread⟩ := List.exists_of_findSome?_eq_some h
  obtain ⟨keyword, rest, _, hrest, hparam, _⟩ := Form.exists_keyword_of_read? hread
  obtain ⟨t, _, rfl⟩ := dropKeyword?_eq_some_iff.mp hrest
  rw [hparam] at hc
  exact List.mem_append_right t (Text.mem_of_mem_trimWhile hc)

/-- A comment that is read is made of its keyword, of what its form allows, and of spaces. -/
theorem char_of_recognize? {d : Directive} (h : recognize? raw = some d) {c : Char} (hc : c ∈ raw) :
    c = ' ' ∨ ∃ f ∈ forms, f.allows c = true ∨ ∃ k ∈ f.keywords, c.toUpper ∈ k.1 := by
  obtain ⟨f, hf, hread⟩ := List.exists_of_findSome?_eq_some h
  obtain ⟨keyword, rest, hmem, hrest, hparam, hall⟩ := Form.exists_keyword_of_read? hread
  obtain ⟨t, ht, rfl⟩ := dropKeyword?_eq_some_iff.mp hrest
  rcases List.mem_append.mp hc with hc | hc
  · exact .inr ⟨f, hf, .inr ⟨_, hmem, ht ▸ List.mem_map_of_mem hc⟩⟩
  · rcases Text.mem_trimWhile_or (p := (· == ' ')) hc with hc | hc
    · exact .inr ⟨f, hf, .inl (List.all_eq_true.mp hall c (hparam ▸ hc))⟩
    · exact .inl (beq_iff_eq.mp hc)

end Directive
end Markweave
