import Markweave.HeadingIds
import Markweave.Proofs.Html.Calm
import Markweave.Proofs.Text.Occurrence

namespace Markweave.HeadingIds

open Html (startsNoHeading)

theorem findsTags_tag : tag.FindsTags := by
  intro s t r h
  cases hd : Text.dropStart? "<h" s with
  | none =>
    have hnone : readTag? s = none := by rw [readTag?, hd]
    exact absurd (hnone.symm.trans h) (by simp)
  | some rest =>
    rw [Text.eq_append_of_dropStart? hd]
    rfl

theorem readTag?_eq_none {v : Text} (hv : startsNoHeading v = true) : readTag? ('<' :: v) = none := by
  match v with
  | [] => rfl
  | c :: r =>
    by_cases hc : c = 'h'
    · subst hc
      cases r with
      | nil => rfl
      | cons d r =>
        simp only [startsNoHeading, Bool.and_eq_true, Bool.not_eq_true'] at hv
        have hd : Text.dropStart? "<h" ('<' :: 'h' :: d :: r) = some (d :: r) := rfl
        rw [readTag?, hd]
        dsimp only
        rw [if_neg (by simp [hv.2])]
    · have hd : Text.dropStart? "<h" ('<' :: c :: r) = none := by
        rw [show "<h".toList = '<' :: 'h' :: [] from rfl, Text.dropStart?, if_pos rfl]
        exact Text.dropStart?_of_head_ne (Ne.symm hc)
      rw [readTag?, hd]

theorem quiet_of_startsNoHeading {t : Text} (h : t.AtTags (startsNoHeading · = true)) : tag.Quiet t := by
  intro u c v he s
  by_cases hc : c = '<'
  · subst hc
    exact readTag?_eq_none (Html.startsNoHeading_append (h u v he) s)
  · exact findsTags_tag.read?_eq_none hc _

/-- A digit from one to eight, and nothing behind it, or a blank and whatever does not close the tag. -/
structure HeadingTag.IsProper (t : HeadingTag) : Prop where
  digit : '1' ≤ t.digit ∧ t.digit ≤ '8'
  blank : ∀ c ∈ t.attributes.head?, Unicode.isBlank c = true
  close : '>' ∉ t.attributes

/-- The text of a tag with something put in behind its name. -/
def HeadingTag.spell (inserted : Text) (t : HeadingTag) : Text :=
  "<h" ++ [t.digit] ++ inserted ++ t.attributes ++ ">"

theorem isHeadingDigit_iff {d : Char} : isHeadingDigit d = true ↔ '1' ≤ d ∧ d ≤ '8' := by
  rw [isHeadingDigit, Bool.and_eq_true, decide_eq_true_iff, decide_eq_true_iff]

theorem readAttributes?_eq_some_iff {s as r : Text} :
    readAttributes? s = some (as, r) ↔
      s = as ++ '>' :: r ∧ '>' ∉ as ∧ ∀ c ∈ as.head?, Unicode.isBlank c = true := by
  constructor
  · intro h
    unfold readAttributes? at h
    split at h
    · obtain ⟨rfl, rfl⟩ := Prod.mk.inj (Option.some.inj h)
      exact ⟨rfl, List.not_mem_nil, nofun⟩
    · next c cs hne =>
      split at h
      · next hblank =>
        obtain ⟨⟨inside, rest⟩, hcut, he⟩ := Option.map_eq_some_iff.mp h
        obtain ⟨rfl, rfl⟩ := Prod.mk.inj he
        have hinside : '>' ∉ inside := by
          intro hmem
          obtain ⟨u, v, rfl⟩ := List.append_of_mem hmem
          exact Text.not_infix_of_cut? (List.cons_ne_nil _ _) hcut ⟨u, v, List.append_assoc u ['>'] v⟩
        have hc : '>' ≠ c := by
          rintro rfl
          exact absurd hblank (by decide)
        refine ⟨?_, List.not_mem_cons_of_ne_of_not_mem hc hinside, ?_⟩
        · rw [Text.eq_append_of_cut? hcut, List.append_assoc]
          rfl
        · intro d hd
          obtain rfl := Option.some.inj hd
          exact hblank
      · cases h
    · cases h
  · rintro ⟨rfl, hclose, hblank⟩
    cases as with
    | nil => rfl
    | cons c inside =>
      simp only [List.mem_cons, not_or] at hclose
      have hcut : Text.cut? ">" (inside ++ '>' :: r) = some (inside, r) := Text.cut?_of_notMem hclose.2 r
      rw [List.cons_append, readAttributes?, if_pos (hblank c rfl), hcut]
      · rfl
      · exact fun h => hclose.1 h.symm

theorem readTag?_eq_some_iff {s r : Text} {t : HeadingTag} :
    readTag? s = some (t, r) ↔ t.IsProper ∧ s = t.spell [] ++ r := by
  have hspell : t.spell [] ++ r = "<h" ++ t.digit :: (t.attributes ++ '>' :: r) := by
    simp [HeadingTag.spell]
  rw [hspell]
  constructor
  · intro h
    unfold readTag? at h
    split at h
    · next d rest hd =>
      split at h
      · next hdigit =>
        obtain ⟨⟨inside, rest'⟩, hread, he⟩ := Option.map_eq_some_iff.mp h
        obtain ⟨rfl, rfl⟩ := Prod.mk.inj he
        obtain ⟨rfl, hclose, hblank⟩ := readAttributes?_eq_some_iff.mp hread
        exact ⟨⟨isHeadingDigit_iff.mp hdigit, hblank, hclose⟩, Text.eq_append_of_dropStart? hd⟩
      · cases h
    · cases h
  · rintro ⟨hproper, rfl⟩
    have hread : readAttributes? (t.attributes ++ '>' :: r) = some (t.attributes, r) :=
      readAttributes?_eq_some_iff.mpr ⟨rfl, hproper.close, hproper.blank⟩
    rw [readTag?, Text.dropStart?_append]
    dsimp only
    rw [if_pos (isHeadingDigit_iff.mpr hproper.digit), hread]
    rfl

end Markweave.HeadingIds
