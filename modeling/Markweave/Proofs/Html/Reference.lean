import Markweave.Html.Escape
import Markweave.Proofs.Text.Cut

namespace Markweave.Html

/-- What stands between the `&` and the semicolon of a reference. -/
inductive ReferenceName : Text → Prop
  | named {c : Char} {name : Text} (hc : c.isAlpha = true) (hname : ∀ d ∈ name, d.isAlphanum = true) :
      ReferenceName (c :: name)
  | decimal {digits : Text} (hne : digits ≠ []) (hdigits : ∀ d ∈ digits, d.isDigit = true) :
      ReferenceName ('#' :: digits)
  | hexadecimal {x : Char} {digits : Text} (hx : x = 'x' ∨ x = 'X') (hne : digits ≠ [])
      (hdigits : ∀ d ∈ digits, Text.isHexDigit d = true) : ReferenceName ('#' :: x :: digits)

/-- The text behind a `&` that begins a terminated reference. -/
def BehindReference (s : Text) : Prop := ∃ name rest, s = name ++ ';' :: rest ∧ ReferenceName name

theorem closesReference_append {p : Char → Bool} {digits : Text} (hne : digits ≠ [])
    (hp : ∀ c ∈ digits, p c = true) (hend : p ';' = false) (s : Text) :
    closesReference p (digits ++ ';' :: s) = true := by
  simp [closesReference, Text.takeWhile_append_cons hp hend, Text.dropWhile_append_cons hp hend, hne]

theorem eq_append_of_closesReference {p : Char → Bool} {s : Text} (h : closesReference p s = true) :
    ∃ digits rest, s = digits ++ ';' :: rest ∧ digits ≠ [] ∧ ∀ c ∈ digits, p c = true := by
  simp only [closesReference, Bool.and_eq_true, Bool.not_eq_true', List.isEmpty_eq_false_iff, beq_iff_eq] at h
  obtain ⟨hne, hend⟩ := h
  obtain ⟨rest, hrest⟩ := List.head?_eq_some_iff.mp hend
  refine ⟨s.takeWhile p, rest, ?_, hne, fun c hc => List.all_eq_true.mp List.all_takeWhile c hc⟩
  rw [← hrest, List.takeWhile_append_dropWhile]

theorem opensReference_of_isAlpha {c : Char} (hc : c.isAlpha = true) (s : Text) :
    opensReference (c :: s) = closesReference Char.isAlphanum (c :: s) := by
  have hhash : c ≠ '#' := by
    rintro rfl
    exact absurd hc (by decide)
  rw [opensReference, hc, Bool.true_and]
  · exact fun _ he => absurd he hhash
  · exact fun _ he => absurd he hhash
  · exact hhash

theorem opensReference_of_isDigit {d : Char} (hd : d.isDigit = true) (s : Text) :
    opensReference ('#' :: d :: s) = closesReference Char.isDigit (d :: s) := by
  rw [opensReference]
  all_goals
    rintro t he
    obtain ⟨rfl, _⟩ := List.cons.inj he
    exact absurd hd (by decide)

theorem ReferenceName.opensReference {name : Text} (h : ReferenceName name) (s : Text) :
    opensReference (name ++ ';' :: s) = true := by
  cases h with
  | @named c name hc hname =>
    rw [List.cons_append, opensReference_of_isAlpha hc]
    have hall : ∀ d ∈ c :: name, d.isAlphanum = true :=
      List.forall_mem_cons.mpr ⟨by simp [Char.isAlphanum, hc], hname⟩
    exact closesReference_append (List.cons_ne_nil c name) hall rfl s
  | @decimal digits hne hdigits =>
    obtain ⟨d, ds, rfl⟩ := List.exists_cons_of_ne_nil hne
    exact (opensReference_of_isDigit (hdigits d List.mem_cons_self) _).trans
      (closesReference_append hne hdigits rfl s)
  | hexadecimal hx hne hdigits =>
    rcases hx with rfl | rfl
    · exact closesReference_append hne hdigits rfl s
    · exact closesReference_append hne hdigits rfl s

theorem opensReference_iff {s : Text} : opensReference s = true ↔ BehindReference s := by
  constructor
  · intro h
    unfold Html.opensReference at h
    split at h
    · obtain ⟨digits, rest, rfl, hne, hp⟩ := eq_append_of_closesReference h
      exact ⟨'#' :: 'x' :: digits, rest, rfl, .hexadecimal (.inl rfl) hne hp⟩
    · obtain ⟨digits, rest, rfl, hne, hp⟩ := eq_append_of_closesReference h
      exact ⟨'#' :: 'X' :: digits, rest, rfl, .hexadecimal (.inr rfl) hne hp⟩
    · obtain ⟨digits, rest, rfl, hne, hp⟩ := eq_append_of_closesReference h
      exact ⟨'#' :: digits, rest, rfl, .decimal hne hp⟩
    · obtain ⟨hc, hclose⟩ := Bool.and_eq_true_iff.mp h
      obtain ⟨name, rest, he, hne, hp⟩ := eq_append_of_closesReference hclose
      obtain ⟨d, ds, rfl⟩ := List.exists_cons_of_ne_nil hne
      obtain ⟨rfl, _⟩ := List.cons.inj he
      exact ⟨_, rest, he, .named hc fun e he => hp e (List.mem_cons_of_mem _ he)⟩
    · cases h
  · rintro ⟨name, rest, rfl, hname⟩
    exact hname.opensReference rest

/-- A reference has letters and digits and at most one sharp. -/
theorem ReferenceName.chars {name : Text} (h : ReferenceName name) :
    ∀ c ∈ name, c.isAlphanum = true ∨ Text.isHexDigit c = true ∨ c = '#' := by
  cases h with
  | named hc hname =>
    exact List.forall_mem_cons.mpr ⟨.inl (by simp [Char.isAlphanum, hc]), fun d hd => .inl (hname d hd)⟩
  | decimal hne hdigits =>
    refine List.forall_mem_cons.mpr ⟨.inr (.inr rfl), fun d hd => .inl ?_⟩
    simp [Char.isAlphanum, hdigits d hd]
  | hexadecimal hx hne hdigits =>
    refine List.forall_mem_cons.mpr ⟨.inr (.inr rfl), List.forall_mem_cons.mpr ⟨.inl ?_, ?_⟩⟩
    · rcases hx with rfl | rfl
      · rfl
      · rfl
    · exact fun d hd => .inr (.inl (hdigits d hd))

/-- Nothing in a reference is escaped. -/
theorem ReferenceName.plain {name : Text} (h : ReferenceName name) : ∀ c ∈ name, c ≠ '&' ∧ c ≠ '<' ∧ c ≠ '>' := by
  intro c hc
  refine ⟨?_, ?_, ?_⟩
  all_goals
    rintro rfl
    rcases h.chars _ hc with h | h | h
    all_goals exact absurd h (by decide)

end Markweave.Html
