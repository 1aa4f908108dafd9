import Markweave.Proofs.Html.Vocabulary
import Markweave.Proofs.Text.Tags
import Markweave.Unicode.Ranges

namespace Markweave.Html

/-- What ends the name of a tag. -/
def endsName (c : Char) : Bool := c == '>' || c == '/' || Unicode.isBlank c

/-- A name of the vocabulary with the character that ends it, behind a slash if the tag closes. -/
def TagStart (t : Text) : Prop :=
  ∃ n ∈ tagNames, ∃ c, endsName c = true ∧ (t = n ++ [c] ∨ t = '/' :: (n ++ [c]))

/-- What follows a `<` begins a tag of the vocabulary. -/
def OpensTag (v : Text) : Prop := ∃ t r, TagStart t ∧ v = t ++ r

/-- Every `<` begins a tag of the vocabulary. -/
def TagsOnly (t : Text) : Prop := t.AtTags OpensTag

theorem alphanum_of_mem_tagNames {n : Text} (hn : n ∈ tagNames) : n.all Char.isAlphanum = true := by
  revert n
  decide

theorem TagStart.mem {t : Text} (h : TagStart t) {d : Char} (hd : d ∈ t) :
    d.isAlphanum = true ∨ endsName d = true := by
  obtain ⟨n, hn, c, hc, he⟩ := h
  have hmem : d ∈ n ++ [c] → d.isAlphanum = true ∨ endsName d = true := by
    intro hd
    rcases List.mem_append.mp hd with hd | hd
    · exact .inl (List.all_eq_true.mp (alphanum_of_mem_tagNames hn) d hd)
    · rw [List.mem_singleton] at hd
      subst hd
      exact .inr hc
  rcases he with rfl | rfl
  · exact hmem hd
  · rcases List.mem_cons.mp hd with rfl | hd
    · exact .inr rfl
    · exact hmem hd

/-- A character that is in no name and ends none. -/
def Bars (d : Char) : Prop := d.isAlphanum = false ∧ endsName d = false

instance (d : Char) : Decidable (Bars d) := inferInstanceAs (Decidable (_ ∧ _))

theorem TagStart.notMem {t : Text} (h : TagStart t) {d : Char} (hd : Bars d) : d ∉ t := by
  intro hmem
  rcases h.mem hmem with ha | he
  · rw [hd.1] at ha
    cases ha
  · rw [hd.2] at he
    cases he

theorem OpensTag.append {v : Text} (h : OpensTag v) (s : Text) : OpensTag (v ++ s) := by
  obtain ⟨t, r, ht, rfl⟩ := h
  exact ⟨t, r ++ s, ht, List.append_assoc t r s⟩

/-- Whether a tag opens is decided before a character that bars names. -/
theorem opensTag_append_bar {d : Char} (hd : Bars d) (v x : Text) : OpensTag (v ++ d :: x) ↔ OpensTag v := by
  constructor
  · rintro ⟨t, r, ht, he⟩
    rcases List.append_eq_append_iff.mp he with ⟨w, hw, hr⟩ | ⟨w, hw, _⟩
    · cases w with
      | nil => exact ⟨t, [], ht, by simp [hw]⟩
      | cons e w =>
        have hmem : e ∈ t := by simp [hw]
        obtain ⟨rfl, _⟩ := List.cons.inj (hr : d :: x = e :: (w ++ r))
        exact absurd hmem (ht.notMem hd)
    · exact ⟨t, w, ht, hw⟩
  · exact fun h => h.append _

theorem tagsOnly_append_plain {a : Text} (ha : '<' ∉ a) (r : Text) : TagsOnly (a ++ r) ↔ TagsOnly r := by
  by_cases hr : '<' ∈ r
  · obtain ⟨x, y, rfl, hx⟩ := List.eq_append_cons_of_mem hr
    have hax : '<' ∉ a ++ x := by simp [ha, hx]
    rw [← List.append_assoc, TagsOnly, TagsOnly, Text.AtTags.append_cons_iff hax,
      Text.AtTags.append_cons_iff hx]
  · exact iff_of_true (.of_notMem (by simp [ha, hr])) (.of_notMem hr)

theorem tagsOnly_cons_tag (r : Text) : TagsOnly ('<' :: r) ↔ OpensTag r ∧ TagsOnly r := by
  have hnil : '<' ∉ ([] : Text) := List.not_mem_nil
  exact Text.AtTags.append_cons_iff hnil

/-- A text with a tag behind it has its tags for itself. -/
theorem tagsOnly_append_tag (b x : Text) :
    TagsOnly (b ++ '<' :: x) ↔ TagsOnly b ∧ OpensTag x ∧ TagsOnly x := by
  induction b using Text.tags_induction with
  | plain a ha =>
    rw [tagsOnly_append_plain ha, tagsOnly_cons_tag]
    exact (and_iff_right (.of_notMem ha)).symm
  | tag a b ha ih =>
    have hb : OpensTag (b ++ '<' :: x) ↔ OpensTag b := opensTag_append_bar (by decide) b x
    rw [List.append_assoc, tagsOnly_append_plain ha, tagsOnly_append_plain ha, List.cons_append,
      tagsOnly_cons_tag, tagsOnly_cons_tag, ih, hb, and_assoc]

/-- A text with a character behind it that bars names has its tags for itself. -/
theorem tagsOnly_append_bar {d : Char} (hd : Bars d) (hlt : d ≠ '<') (b x : Text) :
    TagsOnly (b ++ d :: x) ↔ TagsOnly b ∧ TagsOnly x := by
  induction b using Text.tags_induction with
  | plain a ha =>
    have had : '<' ∉ a ++ [d] := by simp [ha, Ne.symm hlt]
    have hsplit : a ++ d :: x = a ++ [d] ++ x := by simp
    rw [hsplit, tagsOnly_append_plain had]
    exact (and_iff_right (.of_notMem ha)).symm
  | tag a b ha ih =>
    have hb := opensTag_append_bar hd b x
    rw [List.append_assoc, tagsOnly_append_plain ha, tagsOnly_append_plain ha, List.cons_append,
      tagsOnly_cons_tag, tagsOnly_cons_tag, ih, hb, and_assoc]

/-- The bracket of a tag stands at the end of its start, if it stands there at all. -/
theorem TagStart.bracket_last {b w : Text} (h : TagStart (b ++ '>' :: w)) : w = [] := by
  cases w with
  | nil => rfl
  | cons e w =>
    have hmem : '>' ∈ (b ++ '>' :: e :: w).dropLast := by
      rw [List.dropLast_append_of_ne_nil (List.cons_ne_nil _ _), List.dropLast_cons_of_ne_nil
        (List.cons_ne_nil _ _)]
      exact List.mem_append_right _ List.mem_cons_self
    obtain ⟨n, hn, c, _, he⟩ := h
    have hname : '>' ∉ '/' :: n := by
      have hall : ∀ n ∈ tagNames, '>' ∉ '/' :: n := by decide
      exact hall n hn
    rcases he with he | he
    · rw [he, List.dropLast_concat] at hmem
      exact absurd (List.mem_cons_of_mem _ hmem) hname
    · rw [he, ← List.cons_append, List.dropLast_concat] at hmem
      exact absurd hmem hname

theorem opensTag_append_bracket (b r : Text) : OpensTag (b ++ '>' :: r) ↔ OpensTag (b ++ ['>']) := by
  constructor
  · rintro ⟨t, x, ht, he⟩
    rcases List.append_eq_append_iff.mp he with ⟨w, hw, hr⟩ | ⟨w, hw, _⟩
    · cases w with
      | nil => exact ⟨t, ['>'], ht, by simp [hw]⟩
      | cons e w =>
        obtain ⟨rfl, _⟩ := List.cons.inj (hr : '>' :: r = e :: (w ++ x))
        rw [hw] at ht
        obtain rfl := ht.bracket_last
        exact ⟨b ++ ['>'], [], ht, by simp⟩
    · exact ⟨t, w ++ ['>'], ht, by simp [hw]⟩
  · intro h
    have ha := h.append r
    rw [List.append_assoc] at ha
    exact ha

/-- A tag that is complete has the tags inside it for itself. -/
theorem tagsOnly_append_bracket (b r : Text) :
    TagsOnly (b ++ '>' :: r) ↔ TagsOnly (b ++ ['>']) ∧ TagsOnly r := by
  induction b using Text.tags_induction with
  | plain a ha =>
    have hplain : '<' ∉ a ++ ['>'] := by simp [ha]
    have hsplit : a ++ '>' :: r = a ++ ['>'] ++ r := by simp
    rw [hsplit, tagsOnly_append_plain hplain]
    exact (and_iff_right (.of_notMem hplain)).symm
  | tag a b ha ih =>
    rw [List.append_assoc, List.append_assoc, tagsOnly_append_plain ha, tagsOnly_append_plain ha,
      List.cons_append, List.cons_append, tagsOnly_cons_tag, tagsOnly_cons_tag, ih, opensTag_append_bracket b r,
      and_assoc]

theorem endsName_of_isAlphanum {d : Char} (h : d.isAlphanum = true) : endsName d = false := by
  cases he : endsName d with
  | false => rfl
  | true =>
    simp only [endsName, Bool.or_eq_true, beq_iff_eq] at he
    rcases he with (rfl | rfl) | hb
    · exact absurd h (by decide)
    · exact absurd h (by decide)
    · obtain ⟨⟨lo, hi⟩, hrange, hd⟩ := List.any_eq_true.mp hb
      have hgap : ∀ p ∈ Unicode.blankRanges, p.2 ≤ 32 ∨ 133 ≤ p.1 := by decide
      have hfar := hgap (lo, hi) hrange
      simp only [Bool.and_eq_true, decide_eq_true_eq] at hd
      have halnum := range_of_isAlphanum h
      omega

/-- Two names with what ends them are the same when they begin the same text. -/
theorem name_unique {n m r r' : Text} {c c' : Char} (hn : n.all Char.isAlphanum = true)
    (hm : m.all Char.isAlphanum = true) (hc : endsName c = true) (hc' : endsName c' = true)
    (h : n ++ c :: r = m ++ c' :: r') : n = m := by
  have hname : ∀ {n : Text} {c : Char} {r : Text}, n.all Char.isAlphanum = true → endsName c = true →
      (n ++ c :: r).takeWhile (fun d => !endsName d) = n := by
    intro n c r hn hc
    rw [List.takeWhile_append_of_pos, List.takeWhile_cons, if_neg (by simp [hc]), List.append_nil]
    intro d hd
    simp [endsName_of_isAlphanum (List.all_eq_true.mp hn d hd)]
  rw [← hname hn hc, h, hname hm hc']

/-- A tag opens with a name exactly when the name is in the vocabulary. -/
theorem opensTag_name_iff {m : Text} (hm : m.all Char.isAlphanum = true) (hne : m ≠ []) {c : Char}
    (hc : endsName c = true) (r : Text) : OpensTag (m ++ c :: r) ↔ m ∈ tagNames := by
  constructor
  · rintro ⟨t, r', ⟨n, hn, c', hc', ht⟩, he⟩
    rcases ht with rfl | rfl
    · rw [List.append_assoc] at he
      rw [name_unique hm (alphanum_of_mem_tagNames hn) hc hc' he]
      exact hn
    · obtain ⟨d, m, rfl⟩ := List.exists_cons_of_ne_nil hne
      obtain ⟨rfl, _⟩ := List.cons.inj (he : d :: (m ++ c :: r) = '/' :: (n ++ [c'] ++ r'))
      exact absurd (List.all_eq_true.mp hm '/' List.mem_cons_self) (by decide)
  · intro h
    exact ⟨m ++ [c], r, ⟨m, h, c, hc, .inl rfl⟩, by simp⟩

/-- The texts that stand in a piece of markup. -/
def Markup.texts : Markup → List Text
  | verbatim t => [t]
  | opening _ as => as.filterMap Attribute.value
  | standalone _ as => as.filterMap Attribute.value
  | closing _ => []

section

variable {A : Char → Prop}

theorem tagsOnly_attribute {a : Attribute} (ha : '<' ∉ a.name) (s : Text) :
    TagsOnly (a.write ++ s) ↔ (∀ v ∈ a.value, TagsOnly v) ∧ TagsOnly s := by
  obtain ⟨name, value⟩ := a
  cases value with
  | none =>
    have hword : '<' ∉ " " ++ name := by simp [show '<' ∉ name from ha]
    rw [Attribute.write, tagsOnly_append_plain hword]
    exact (and_iff_right fun v hv => absurd hv (by simp)).symm
  | some v =>
    have hname : '<' ∉ " " ++ name ++ "=\"" := by simp [show '<' ∉ name from ha]
    have hsplit : (Attribute.mk name (some v)).write ++ s = " " ++ name ++ "=\"" ++ (v ++ '"' :: s) := by
      rw [Attribute.write, List.append_assoc, List.append_assoc]
      rfl
    rw [hsplit, tagsOnly_append_plain hname, tagsOnly_append_bar (by decide) (by decide)]
    simp

theorem tagsOnly_attributes {as : List Attribute} (has : ∀ a ∈ as, a.Over A) (s : Text) :
    TagsOnly (writeAttributes as ++ s) ↔ (∀ v ∈ as.filterMap Attribute.value, TagsOnly v) ∧ TagsOnly s := by
  induction as with
  | nil => simp [writeAttributes]
  | cons a as ih =>
    rw [List.forall_mem_cons] at has
    have hrest := ih has.2
    rw [writeAttributes] at hrest ⊢
    rw [List.flatMap_cons, List.append_assoc, tagsOnly_attribute (has.1.notMem_name (by decide)), hrest, ← and_assoc]
    apply and_congr_left'
    cases hv : a.value with
    | none => simp [hv]
    | some v => simp [hv]

/-- The attributes of a tag begin with a blank, or the tag is at its end. -/
theorem endsName_attributes (as : List Attribute) {e : Char} (he : endsName e = true) (s : Text) :
    ∃ c r, endsName c = true ∧ writeAttributes as ++ e :: s = c :: r := by
  cases as with
  | nil => exact ⟨e, s, he, rfl⟩
  | cons a as =>
    have hblank : ∃ r, a.write = ' ' :: r := by
      rw [Attribute.write]
      split
      · exact ⟨_, rfl⟩
      · exact ⟨_, rfl⟩
    obtain ⟨r, hr⟩ := hblank
    refine ⟨' ', r ++ writeAttributes as ++ e :: s, by decide, ?_⟩
    rw [writeAttributes, List.flatMap_cons, hr]
    rfl

theorem tagsOnly_opening {n : Text} (hn : n ∈ tagNames) {as : List Attribute} (has : ∀ a ∈ as, a.Over A)
    {e : Char} (he : endsName e = true) (hlt : e ≠ '<') (s : Text) :
    TagsOnly ('<' :: (n ++ (writeAttributes as ++ e :: s))) ↔
      (∀ v ∈ as.filterMap Attribute.value, TagsOnly v) ∧ TagsOnly s := by
  have hname : '<' ∉ n ∧ n ≠ [] := by
    have hall : ∀ n ∈ tagNames, '<' ∉ n ∧ n ≠ [] := by decide
    exact hall n hn
  have hopens : OpensTag (n ++ (writeAttributes as ++ e :: s)) := by
    obtain ⟨c, r, hc, hr⟩ := endsName_attributes as he s
    rw [hr]
    exact (opensTag_name_iff (alphanum_of_mem_tagNames hn) hname.2 hc r).mpr hn
  have hend : TagsOnly (e :: s) ↔ TagsOnly s := tagsOnly_append_plain (a := [e]) (by simp [Ne.symm hlt]) s
  rw [tagsOnly_cons_tag, tagsOnly_append_plain hname.1, tagsOnly_attributes has, hend]
  exact and_iff_right hopens

theorem tagsOnly_closing {n : Text} (hn : n ∈ tagNames) (s : Text) :
    OpensTag ('/' :: (n ++ '>' :: s)) ∧ (TagsOnly ('/' :: (n ++ '>' :: s)) ↔ TagsOnly s) := by
  have hall : ∀ n ∈ tagNames, '<' ∉ '/' :: (n ++ ['>']) := by decide
  refine ⟨⟨'/' :: (n ++ ['>']), s, ⟨n, hn, '>', rfl, .inr rfl⟩, by simp⟩, ?_⟩
  rw [← tagsOnly_append_plain (hall n hn) s]
  simp

theorem write_opening_append (n : Text) (as : List Attribute) (s : Text) :
    (Markup.opening n as).write ++ s = '<' :: (n ++ (writeAttributes as ++ '>' :: s)) := by
  rw [Markup.write, List.append_assoc, List.append_assoc, List.append_assoc]
  rfl

theorem write_standalone_append (n : Text) (as : List Attribute) (s : Text) :
    (Markup.standalone n as).write ++ s = '<' :: (n ++ (writeAttributes as ++ ' ' :: ("/>" ++ s))) := by
  rw [Markup.write, List.append_assoc, List.append_assoc, List.append_assoc]
  rfl

theorem write_closing_append (n s : Text) : (Markup.closing n).write ++ s = '<' :: '/' :: (n ++ '>' :: s) := by
  rw [Markup.write, List.append_assoc, List.append_assoc]
  rfl

theorem tagsOnly_markup {m : Markup} (h : m.Uses tagNames A) (s : Text) :
    TagsOnly (m.write ++ s) ↔ (∀ t ∈ m.texts, TagsOnly t) ∧ TagsOnly s := by
  cases m with
  | verbatim t =>
    rw [Markup.write, tagsOnly_append_plain h, Markup.texts]
    exact (and_iff_right fun v hv => List.mem_singleton.mp hv ▸ .of_notMem h).symm
  | opening n as =>
    rw [write_opening_append, tagsOnly_opening h.1 h.2 (by decide) (by decide)]
    rfl
  | standalone n as =>
    rw [write_standalone_append, tagsOnly_opening h.1 h.2 (by decide) (by decide), tagsOnly_append_plain (by decide)]
    rfl
  | closing n =>
    obtain ⟨hopens, hrest⟩ := tagsOnly_closing h s
    rw [write_closing_append, tagsOnly_cons_tag, hrest]
    simp [Markup.texts, hopens]

/-- Written markup has tags of the vocabulary only when its texts have, each for itself. -/
theorem tagsOnly_writeAll {ms : List Markup} (h : AllUse tagNames A ms) :
    TagsOnly (writeAll ms) ↔ ∀ m ∈ ms, ∀ t ∈ m.texts, TagsOnly t := by
  induction h with
  | nil => exact iff_of_true (.of_notMem List.not_mem_nil) fun m hm => absurd hm List.not_mem_nil
  | @cons m ms hm _ ih =>
    rw [List.forall_mem_cons, ← ih]
    exact tagsOnly_markup hm (writeAll ms)
  | @raw t n ms ht hn _ ih =>
    have hsplit : writeAll (.verbatim t :: .closing n :: ms) = t ++ '<' :: '/' :: (n ++ '>' :: writeAll ms) := by
      rw [writeAll, List.flatMap_cons, List.flatMap_cons, Markup.write, Markup.write, List.append_assoc,
        List.append_assoc]
      rfl
    obtain ⟨hopens, hrest⟩ := tagsOnly_closing hn (writeAll ms)
    rw [hsplit, tagsOnly_append_tag, hrest, ih, List.forall_mem_cons, List.forall_mem_cons]
    simp [Markup.texts, hopens]

theorem notMem_attributeValues {as : List Attribute} (has : ∀ a ∈ as, a.Over (· ≠ '<')) :
    ∀ v ∈ as.filterMap Attribute.value, '<' ∉ v := by
  intro v hv hc
  obtain ⟨a, ha, he⟩ := List.mem_filterMap.mp hv
  exact (has a ha).2 v he '<' hc rfl

/-- Where the class of characters leaves `<` out no text holds a tag. -/
theorem notMem_texts {opens : List Text} {ms : List Markup} (h : AllUse opens (· ≠ '<') ms) :
    ∀ m ∈ ms, ∀ t ∈ m.texts, '<' ∉ t := by
  induction h with
  | nil => exact fun m hm => absurd hm List.not_mem_nil
  | @cons m ms hm _ ih =>
    refine List.forall_mem_cons.mpr ⟨?_, ih⟩
    cases m with
    | verbatim t =>
      intro v hv
      rw [Markup.texts, List.mem_singleton] at hv
      subst hv
      exact hm
    | opening n as => exact notMem_attributeValues hm.2
    | standalone n as => exact notMem_attributeValues hm.2
    | closing n => exact fun v hv => absurd hv List.not_mem_nil
  | @raw t n ms ht hn _ ih =>
    refine List.forall_mem_cons.mpr ⟨?_, List.forall_mem_cons.mpr ⟨?_, ih⟩⟩
    · intro v hv hc
      rw [Markup.texts, List.mem_singleton] at hv
      subst hv
      exact ht '<' hc rfl
    · exact fun v hv => absurd hv List.not_mem_nil

end
end Markweave.Html
