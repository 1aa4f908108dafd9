import Markweave.Proofs.HeadingTag
import Markweave.Proofs.Text.Interleaved

namespace Markweave.HeadingIds

/-- No heading tag begins inside the text when the other text follows it. -/
def NoTagIn (gap behind : Text) : Prop :=
  ∀ u c v (t : HeadingTag), gap = u ++ c :: v → t.IsProper → ¬ t.spell [] <+: c :: v ++ behind

/-- A text with its heading tags from the left. A tag that an earlier one runs over is none of them. -/
inductive Tagged : Text → Interleaved HeadingTag → Prop
  | last {gap : Text} (hgap : NoTagIn gap []) : Tagged gap ⟨gap, []⟩
  | next {gap s : Text} {t : HeadingTag} {l : Interleaved HeadingTag} (hgap : NoTagIn gap (t.spell [] ++ s))
      (ht : t.IsProper) (h : Tagged s l) : Tagged (gap ++ (t.spell [] ++ s)) ⟨gap, (t, l.first) :: l.rest⟩

/-- What is put in behind the name of a heading. -/
def idAttribute (id : UInt64) : Text := " id=\"heading_" ++ UInt64.text id ++ "\""

theorem writeTag_eq_spell (id : UInt64) (t : HeadingTag) : writeTag id t = t.spell (idAttribute id) := by
  have hassoc : ∀ a b c d : Text, a ++ b ++ c ++ d = a ++ (b ++ c ++ d) := by
    intro a b c d
    simp only [List.append_assoc]
  exact congrArg (· ++ t.attributes ++ ">") (hassoc ("<h" ++ [t.digit]) " id=\"heading_" (UInt64.text id) "\"")

theorem spell_ne_nil (t : HeadingTag) : t.spell [] ≠ [] := List.cons_ne_nil _ _

theorem read?_eq_none_iff {s : Text} : tag.read? s = none ↔ ∀ t : HeadingTag, t.IsProper → ¬ t.spell [] <+: s := by
  constructor
  · rintro h t ht ⟨r, rfl⟩
    exact absurd (h.symm.trans (readTag?_eq_some_iff.mpr ⟨ht, rfl⟩)) nofun
  · intro h
    apply Option.eq_none_iff_forall_not_mem.mpr
    rintro ⟨t, r⟩ hread
    obtain ⟨ht, rfl⟩ := readTag?_eq_some_iff.mp hread
    exact h t ht (List.prefix_append _ r)

theorem noTagIn_nil (behind : Text) : NoTagIn [] behind := by
  intro u c v t he
  cases u <;> cases he

theorem NoTagIn.cons {c : Char} {gap behind : Text} (hc : tag.read? (c :: gap ++ behind) = none)
    (h : NoTagIn gap behind) : NoTagIn (c :: gap) behind := by
  intro u d v t he ht
  cases u with
  | nil =>
    obtain ⟨rfl, rfl⟩ := List.cons.inj he
    exact read?_eq_none_iff.mp hc t ht
  | cons e u =>
    obtain ⟨rfl, rfl⟩ := List.cons.inj he
    exact h u d v t rfl ht

theorem NoTagIn.read?_eq_none {gap behind : Text} (h : NoTagIn gap behind) (u : Text) (c : Char) (v : Text)
    (he : gap = u ++ c :: v) : tag.read? (c :: v ++ behind) = none :=
  read?_eq_none_iff.mpr fun t ht => h u c v t he ht

/-- A tag that stands behind a stretch begins no sooner than the stretch is over. -/
theorem NoTagIn.eq_append {gap behind a s : Text} {t : HeadingTag} (h : NoTagIn gap behind) (ht : t.IsProper)
    (he : gap ++ behind = a ++ (t.spell [] ++ s)) : ∃ w, a = gap ++ w ∧ behind = w ++ (t.spell [] ++ s) := by
  rcases List.append_eq_append_iff.mp he with ⟨w, rfl, hw⟩ | ⟨w, rfl, hw⟩
  · exact ⟨w, rfl, hw⟩
  · cases w with
    | nil => exact ⟨[], by simp, hw.symm⟩
    | cons c w => exact absurd ⟨s, hw⟩ (h a c w t rfl ht)

theorem NoTagIn.not_infix {gap behind : Text} {t : HeadingTag} (h : NoTagIn gap behind) (ht : t.IsProper) :
    ¬ t.spell [] <:+: gap := by
  rintro ⟨u, v, rfl⟩
  obtain ⟨w, hw, _⟩ := h.eq_append ht (a := u) (s := v ++ behind) (by simp)
  have hlength := congrArg List.length hw
  have hpos := List.length_pos_iff.mpr (spell_ne_nil t)
  simp only [List.length_append] at hlength
  omega

namespace Tagged

variable {s : Text} {l : Interleaved HeadingTag}

theorem source (h : Tagged s l) : s = l.write (HeadingTag.spell []) := by
  induction h with
  | last => exact (List.append_nil _).symm
  | next _ _ _ ih =>
    rw [ih]
    simp [Interleaved.write, Interleaved.writeRest]

theorem isProper (h : Tagged s l) : ∀ t ∈ l.items, t.IsProper := by
  induction h with
  | last => exact nofun
  | next _ ht _ ih => exact List.forall_mem_cons.mpr ⟨ht, ih⟩

theorem gaps (h : Tagged s l) : ∀ gap ∈ l.gaps, ∀ t : HeadingTag, t.IsProper → ¬ t.spell [] <:+: gap := by
  induction h with
  | last hgap => exact List.forall_mem_singleton.mpr fun _ => hgap.not_infix
  | next hgap _ _ ih => exact List.forall_mem_cons.mpr ⟨fun _ => hgap.not_infix, ih⟩

/-- There is one way only to find the tags. -/
theorem unique (h : Tagged s l) {l' : Interleaved HeadingTag} (h' : Tagged s l') : l' = l := by
  induction h generalizing l' with
  | @last gap hnone =>
    generalize he : gap = s at h'
    cases h' with
    | last => rfl
    | @next gap' s' t' l' _ ht' _ =>
      exact absurd ⟨gap', s', by rw [he, List.append_assoc]⟩ (hnone.not_infix ht')
  | @next gap s t l hnone ht _ ih =>
    generalize he : gap ++ (t.spell [] ++ s) = whole at h'
    cases h' with
    | last hnone' =>
      exact absurd ⟨gap, s, by rw [← he, List.append_assoc]⟩ (hnone'.not_infix ht)
    | @next gap' s' t' l' hnone' ht' h' =>
      obtain ⟨w, rfl, hw⟩ := hnone.eq_append ht' he
      obtain ⟨w', hw', _⟩ := hnone'.eq_append ht he.symm
      obtain rfl : w = [] := by
        have hlength := congrArg List.length hw'
        simp only [List.length_append] at hlength
        exact List.eq_nil_of_length_eq_zero (by omega)
      rw [List.nil_append] at hw
      have hread := readTag?_eq_some_iff.mpr ⟨ht, hw.symm⟩
      rw [readTag?_eq_some_iff.mpr ⟨ht', rfl⟩] at hread
      obtain ⟨rfl, rfl⟩ := Prod.mk.inj (Option.some.inj hread)
      rw [ih h', List.append_nil]

theorem cons (h : Tagged s l) {c : Char} (hc : tag.read? (c :: s) = none) :
    Tagged (c :: s) ⟨c :: l.first, l.rest⟩ := by
  cases h with
  | last hgap => exact .last (hgap.cons (by rwa [List.append_nil]))
  | next hgap ht h => exact .next (hgap.cons hc) ht h

/-- The numbers go on from tag to tag. -/
theorem inject_eq (h : Tagged s l) (n : UInt64) :
    inject ⟨n⟩ s = (l.indexed.write fun (t, k) => t.spell (idAttribute (n + .ofNat k)),
      ⟨n + .ofNat l.items.length⟩) := by
  induction h generalizing n with
  | @last gap hgap =>
    have happend := tag.renumber_append writeTag (s := []) ⟨n⟩ hgap.read?_eq_none
    rw [tag.renumber_nil, List.append_nil] at happend
    rw [inject, happend]
    simp [Interleaved.write, Interleaved.writeRest, Interleaved.indexed, Interleaved.items]
  | @next gap s t l hgap ht _ ih =>
    have hread : tag.read? (t.spell [] ++ s) = some (t, s) := readTag?_eq_some_iff.mpr ⟨ht, rfl⟩
    have hrest : tag.renumber writeTag ⟨n + 1⟩ s = _ := ih (n + 1)
    rw [inject, tag.renumber_append writeTag ⟨n⟩ hgap.read?_eq_none, tag.renumber_of_read? writeTag ⟨n⟩ hread,
      hrest, writeTag_eq_spell, Interleaved.write_indexed_cons]
    simp only [UInt64.add_one_add_ofNat]
    simp [Interleaved.items]

end Tagged

theorem exists_tagged (s : Text) : ∃ l, Tagged s l := by
  induction s using tag.induction with
  | nil => exact ⟨_, .last (noTagIn_nil [])⟩
  | found s t r hread ih =>
    obtain ⟨l, h⟩ := ih
    obtain ⟨ht, rfl⟩ := readTag?_eq_some_iff.mp hread
    exact ⟨_, .next (noTagIn_nil _) ht h⟩
  | skip c s hread ih =>
    obtain ⟨l, h⟩ := ih
    exact ⟨_, h.cons hread⟩

/-- The heading tags of a text, found from the left in one way only, receive the numbers from the counter on in
their order, each behind its name; with nothing put in there the text is as it was. -/
theorem inject_inserts (n : UInt64) (html : Text) :
    ∃ l, Tagged html l ∧ (∀ l', Tagged html l' → l' = l) ∧
      html = l.write (HeadingTag.spell []) ∧
      inject ⟨n⟩ html = (l.indexed.write fun (t, k) => t.spell (idAttribute (n + .ofNat k)),
        ⟨n + .ofNat l.items.length⟩) ∧
      (∀ t ∈ l.items, t.IsProper) ∧
      ∀ gap ∈ l.gaps, ∀ t : HeadingTag, t.IsProper → ¬ t.spell [] <:+: gap := by
  obtain ⟨l, h⟩ := exists_tagged html
  exact ⟨l, h, fun _ => h.unique, h.source, h.inject_eq n, h.isProper, h.gaps⟩

end Markweave.HeadingIds
