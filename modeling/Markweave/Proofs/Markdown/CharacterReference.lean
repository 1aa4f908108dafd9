import Markweave.Proofs.Html.Reference
import Markweave.Proofs.Markdown.LinkAppend

namespace Markweave.Markdown.CharacterReference

open Html (ReferenceName)

variable {s v r name : Text}

theorem startingWith_of_not_isAlpha {c : Char} (hc : c.isAlpha = false) : startingWith c = [] := by
  unfold startingWith
  split
  all_goals first
    | rfl
    | cases hc

/-- All names of characters begin with a letter. -/
theorem isAlpha_head_of_named? (h : named? name = some v) : name.head?.any Char.isAlpha = true := by
  have hcommon : ∀ p ∈ common, p.1.toList.head?.any Char.isAlpha = true := by decide
  have hdouble : ∀ p ∈ double, p.1.toList.head?.any Char.isAlpha = true := by decide +kernel
  by_contra hname
  have hfind : ∀ {β : Type} {names : List (String × β)}, (∀ p ∈ names, p.1.toList.head?.any Char.isAlpha = true) →
      names.find? (fun (n, _) => n.toList == name) = none := by
    intro β names hnames
    rw [List.find?_eq_none]
    intro p hp he
    exact hname (beq_iff_eq.mp he ▸ hnames p hp)
  have hstarting : name.head?.elim [] startingWith = [] := by
    cases name with
    | nil => rfl
    | cons c rest => exact startingWith_of_not_isAlpha (by simpa using hname)
  simp only [named?, hstarting, hfind hcommon, hfind hdouble, List.find?_nil, Option.map_none, Option.or_none] at h
  cases h

theorem read?_name (hname : ∀ c ∈ name, c.isAlphanum = true) (h : named? name = some v) (s : Text) :
    read? (name ++ ';' :: s) = some (v, s) := by
  have hhash : ∀ t, name ++ ';' :: s ≠ '#' :: t := by
    intro t he
    cases name with
    | nil => exact absurd (List.cons.inj he).1 (by decide)
    | cons c name =>
      obtain ⟨rfl, _⟩ := List.cons.inj he
      exact absurd (hname '#' List.mem_cons_self) (by decide)
  rw [read?_of_ne hhash, Text.takeWhile_append_cons hname (by decide), Text.dropWhile_append_cons hname (by decide), h]
  rfl

theorem span_eq_cons_iff {p : Char → Bool} {x : Text} {d : Char} (hd : p d = false) :
    s.span p = (x, d :: r) ↔ s = x ++ d :: r ∧ ∀ c ∈ x, p c = true := by
  rw [List.span_eq_takeWhile_dropWhile, Prod.mk.injEq]
  constructor
  · rintro ⟨rfl, hdrop⟩
    exact ⟨by rw [← hdrop, List.takeWhile_append_dropWhile], List.all_eq_true.mp List.all_takeWhile⟩
  · rintro ⟨rfl, hx⟩
    exact ⟨Text.takeWhile_append_cons hx hd r, Text.dropWhile_append_cons hx hd r⟩

/-- A number is read as far as its digits go. -/
theorem exists_digits_of_numeric? {isDigit : Char → Bool} (hend : isDigit ';' = false) {base limit : Nat}
    (h : numeric? base limit isDigit s = some (v, r)) :
    ∃ digits, s = digits ++ ';' :: r ∧ digits ≠ [] ∧ (∀ d ∈ digits, isDigit d = true) ∧
      ∀ t, numeric? base limit isDigit (digits ++ ';' :: t) = some (v, t) := by
  unfold numeric? at h
  split at h
  · next digits rest hspan =>
    obtain ⟨rfl, hdigits⟩ := (span_eq_cons_iff hend).mp hspan
    split at h
    · cases h
    · next hlimit =>
      obtain ⟨c, hc, he⟩ := Option.map_eq_some_iff.mp h
      obtain ⟨rfl, rfl⟩ := Prod.mk.inj he
      refine ⟨digits, rfl, fun hnil => hlimit (.inl hnil), hdigits, fun t => ?_⟩
      have hspan : (digits ++ ';' :: t).span isDigit = (digits, ';' :: t) := (span_eq_cons_iff hend).mpr ⟨rfl, hdigits⟩
      simp only [numeric?, hspan, if_neg hlimit, hc, Option.map_some]
  · cases h

theorem read?_of_isDigit {d : Char} (hd : d.isDigit = true) (s : Text) :
    read? ('#' :: d :: s) = numeric? 10 7 Char.isDigit (d :: s) := by
  rw [read?]
  all_goals
    rintro t he
    obtain ⟨rfl, _⟩ := List.cons.inj he
    exact absurd hd (by decide)

theorem exists_name_of_decimal (h : numeric? 10 7 Char.isDigit s = some (v, r)) :
    ∃ name, ReferenceName name ∧ '#' :: s = name ++ ';' :: r ∧ ∀ t, read? (name ++ ';' :: t) = some (v, t) := by
  obtain ⟨digits, rfl, hne, hdigits, hread⟩ := exists_digits_of_numeric? (by decide) h
  refine ⟨'#' :: digits, .decimal hne hdigits, rfl, fun t => ?_⟩
  obtain ⟨d, ds, rfl⟩ := List.exists_cons_of_ne_nil hne
  rw [List.cons_append, List.cons_append, read?_of_isDigit (hdigits d List.mem_cons_self)]
  exact hread t

theorem exists_name_of_hexadecimal {x : Char} (hx : x = 'x' ∨ x = 'X')
    (h : numeric? 16 6 Text.isHexDigit s = some (v, r)) :
    ∃ name, ReferenceName name ∧ '#' :: x :: s = name ++ ';' :: r ∧ ∀ t, read? (name ++ ';' :: t) = some (v, t) := by
  obtain ⟨digits, rfl, hne, hdigits, hread⟩ := exists_digits_of_numeric? (by decide) h
  refine ⟨'#' :: x :: digits, .hexadecimal hx hne hdigits, rfl, ?_⟩
  rcases hx with rfl | rfl
  · exact hread
  · exact hread

theorem referenceName_of_named? (hname : ∀ c ∈ name, c.isAlphanum = true) (h : named? name = some v) :
    ReferenceName name := by
  have halpha := isAlpha_head_of_named? h
  cases name with
  | nil => cases halpha
  | cons c name => exact .named halpha (List.forall_mem_cons.mp hname).2

/-- What is read ends with a semicolon, and nothing behind it is looked at. -/
theorem exists_name_of_read? (h : read? s = some (v, r)) :
    ∃ name, ReferenceName name ∧ s = name ++ ';' :: r ∧ ∀ t, read? (name ++ ';' :: t) = some (v, t) := by
  unfold read? at h
  split at h
  · exact exists_name_of_hexadecimal (.inl rfl) h
  · exact exists_name_of_hexadecimal (.inr rfl) h
  · exact exists_name_of_decimal h
  · split at h
    · next name rest hspan =>
      obtain ⟨rfl, hname⟩ := (span_eq_cons_iff (by decide)).mp hspan
      obtain ⟨value, hvalue, he⟩ := Option.map_eq_some_iff.mp h
      obtain ⟨rfl, rfl⟩ := Prod.mk.inj he
      exact ⟨name, referenceName_of_named? hname hvalue, rfl, read?_name hname hvalue⟩
    · cases h

end Markweave.Markdown.CharacterReference
