import Markweave.Html.Escape
import Markweave.Proofs.Diagram.CodeBlock
import Markweave.Proofs.Text.Cut
import Markweave.Proofs.Text.Pattern

namespace Markweave.Html

theorem mem_escapeChar {c d : Char} (h : c ∈ escapeChar d) : c = d ∨ c ∈ "&amplt;gquo#x27".toList := by
  unfold escapeChar at h
  split at h
  all_goals first
    | exact .inl (by simpa using h)
    | right
      exact (by decide : _ ⊆ "&amplt;gquo#x27".toList) h

theorem escapeChar_of_notMem {c : Char} (hc : c ∉ ['&', '<', '>', '"', '\'']) : escapeChar c = [c] := by
  unfold escapeChar
  split
  case h_6 => rfl
  all_goals exact absurd (by decide) hc

theorem escape_cons (c : Char) (s : Text) : escape (c :: s) = escapeChar c ++ escape s := List.flatMap_cons

/-- Of the special characters only `&` comes out. -/
theorem notMem_escapeChar {c : Char} (hc : c ∈ ['<', '>', '"', '\'']) (d : Char) : c ∉ escapeChar d := by
  by_cases hd : d ∈ ['&', '<', '>', '"', '\'']
  · simp only [List.mem_cons, List.not_mem_nil, or_false] at hc hd
    rcases hd with rfl | rfl | rfl | rfl | rfl
    all_goals
      rcases hc with rfl | rfl | rfl | rfl
      all_goals decide
  · rw [escapeChar_of_notMem hd, List.mem_singleton]
    rintro rfl
    exact hd (List.mem_cons_of_mem '&' hc)

theorem notMem_escape {c : Char} (hc : c ∈ ['<', '>', '"', '\'']) (s : Text) : c ∉ escape s := by
  intro h
  obtain ⟨d, _, hd⟩ := List.mem_flatMap.mp h
  exact notMem_escapeChar hc d hd

theorem lt_notMem_escape (s : Text) : '<' ∉ escape s := notMem_escape (by decide) s

theorem mem_escape {c : Char} {s : Text} (h : c ∈ escape s) : c ∈ s ∨ c ∈ "&amplt;gquo#x27".toList := by
  obtain ⟨d, hd, hc⟩ := List.mem_flatMap.mp h
  rcases mem_escapeChar hc with rfl | hc
  · exact .inl hd
  · exact .inr hc

theorem newline_notMem_escape {s : Text} (h : '\n' ∉ s) : '\n' ∉ escape s := by
  intro hc
  rcases mem_escape hc with hc | hc
  · exact h hc
  · exact absurd hc (by decide)

theorem escapeLenient_cons_plain {c : Char} (hc : c ≠ '&' ∧ c ≠ '<' ∧ c ≠ '>') (s : Text) :
    escapeLenient (c :: s) = c :: escapeLenient s := by
  rw [escapeLenient]
  · exact hc.1
  · exact hc.2.1
  · exact hc.2.2

/-- Lenient escaping writes a special character as a reference or leaves its `&`, and copies all others. -/
theorem escapeLenient_cons (d : Char) (s : Text) : ∃ lead, escapeLenient (d :: s) = lead ++ escapeLenient s ∧
    (lead = [d] ∧ d ≠ '&' ∧ d ≠ '<' ∧ d ≠ '>' ∨
      lead ∈ ["&".toList, "&amp;".toList, "&lt;".toList, "&gt;".toList] ∧ d ∈ ['&', '<', '>']) := by
  by_cases hamp : d = '&'
  · subst hamp
    refine ⟨_, rfl, .inr ⟨?_, by decide⟩⟩
    split
    · exact List.mem_cons_self
    · exact List.mem_cons_of_mem _ List.mem_cons_self
  · by_cases hlt : d = '<'
    · subst hlt
      exact ⟨"&lt;", rfl, .inr ⟨by decide, by decide⟩⟩
    · by_cases hgt : d = '>'
      · subst hgt
        exact ⟨"&gt;", rfl, .inr ⟨by decide, by decide⟩⟩
      · exact ⟨[d], escapeLenient_cons_plain ⟨hamp, hlt, hgt⟩ s, .inl ⟨rfl, hamp, hlt, hgt⟩⟩

theorem exists_cons_of_lead {lead : Text} (h : lead ∈ ["&".toList, "&amp;".toList, "&lt;".toList, "&gt;".toList]) :
    ∃ u, lead = '&' :: u := by
  have hamp : ∀ t ∈ ["&".toList, "&amp;".toList, "&lt;".toList, "&gt;".toList], t.head? = some '&' := by decide
  exact List.head?_eq_some_iff.mp (hamp lead h)

theorem escapeLenient_append_plain {a : Text} (ha : ∀ c ∈ a, c ≠ '&' ∧ c ≠ '<' ∧ c ≠ '>') (s : Text) :
    escapeLenient (a ++ s) = a ++ escapeLenient s := by
  induction a with
  | nil => rfl
  | cons c a ih =>
    rw [List.forall_mem_cons] at ha
    rw [List.cons_append, escapeLenient_cons_plain ha.1, ih ha.2, List.cons_append]

/-- Without a `&` every character is escaped for itself. -/
theorem escapeLenient_append {a : Text} (ha : '&' ∉ a) (s : Text) :
    escapeLenient (a ++ s) = escapeLenient a ++ escapeLenient s := by
  induction a with
  | nil => rfl
  | cons c a ih =>
    simp only [List.mem_cons, not_or] at ha
    have ih := ih ha.2
    by_cases hlt : c = '<'
    · subst hlt
      exact congrArg ("&lt;".toList ++ ·) ih
    by_cases hgt : c = '>'
    · subst hgt
      exact congrArg ("&gt;".toList ++ ·) ih
    have hc : c ≠ '&' ∧ c ≠ '<' ∧ c ≠ '>' := ⟨Ne.symm ha.1, hlt, hgt⟩
    rw [List.cons_append, escapeLenient_cons_plain hc, escapeLenient_cons_plain hc, ih, List.cons_append]

theorem mem_escapeLenient {c : Char} {s : Text} (h : c ∈ escapeLenient s) :
    c ∈ s ∧ c ≠ '<' ∧ c ≠ '>' ∨ c ∈ "&amp;ltg".toList := by
  induction s with
  | nil => exact absurd h List.not_mem_nil
  | cons d s ih =>
    obtain ⟨lead, he, hlead⟩ := escapeLenient_cons d s
    rw [he] at h
    rcases List.mem_append.mp h with h | h
    · rcases hlead with ⟨rfl, _, hplain⟩ | ⟨hlead, _⟩
      · rw [List.mem_singleton] at h
        subst h
        exact .inl ⟨List.mem_cons_self, hplain⟩
      · right
        have hall : ∀ t ∈ ["&".toList, "&amp;".toList, "&lt;".toList, "&gt;".toList],
            t ⊆ "&amp;ltg".toList := by decide
        exact hall lead hlead h
    · rcases ih h with ⟨hs, hplain⟩ | hc
      · exact .inl ⟨List.mem_cons_of_mem d hs, hplain⟩
      · exact .inr hc

theorem lt_notMem_escapeLenient (s : Text) : '<' ∉ escapeLenient s := by
  intro h
  rcases mem_escapeLenient h with ⟨_, h, _⟩ | h
  · exact h rfl
  · exact absurd h (by decide)

theorem gt_notMem_escapeLenient (s : Text) : '>' ∉ escapeLenient s := by
  intro h
  rcases mem_escapeLenient h with ⟨_, _, h⟩ | h
  · exact h rfl
  · exact absurd h (by decide)

theorem newline_notMem_escapeLenient {s : Text} (h : '\n' ∉ s) : '\n' ∉ escapeLenient s := by
  intro hc
  rcases mem_escapeLenient hc with ⟨hc, _⟩ | hc
  · exact h hc
  · exact absurd hc (by decide)

/-- A beginning of escaped text without references was there before. -/
theorem eq_append_of_escapeLenient {x s r : Text} (hx : '&' ∉ x) (h : escapeLenient s = x ++ r) :
    ∃ r', s = x ++ r' ∧ escapeLenient r' = r := by
  induction x generalizing s with
  | nil => exact ⟨s, rfl, h⟩
  | cons d x ih =>
    simp only [List.mem_cons, not_or] at hx
    cases s with
    | nil => cases h
    | cons c s =>
      obtain ⟨lead, he, hlead⟩ := escapeLenient_cons c s
      rw [he] at h
      rcases hlead with ⟨rfl, _⟩ | ⟨hlead, _⟩
      · obtain ⟨rfl, hrest⟩ := List.cons.inj h
        obtain ⟨r', rfl, hr⟩ := ih hx.2 hrest
        exact ⟨r', rfl, hr⟩
      · obtain ⟨u, rfl⟩ := exists_cons_of_lead hlead
        exact absurd (List.cons.inj h).1 hx.1

theorem isBodyChar_escapeLenient {s : Text} (h : ∀ c ∈ s, Diagram.isBodyChar c = true) :
    ∀ c ∈ escapeLenient s, Diagram.isBodyChar c = true := by
  intro c hc
  rcases mem_escapeLenient hc with ⟨hc, _⟩ | hc
  · exact h c hc
  · have hall : "&amp;ltg".toList.all Diagram.isBodyChar = true := by decide
    exact List.all_eq_true.mp hall c hc

theorem ne_word_of_special {tag : Text} (htag : ∀ c ∈ tag, c.isAlpha = true) {d : Char}
    (hd : d ∈ ['&', '<', '>']) (s : Text) : tag ≠ (d :: s).takeWhile fun c => c != ' ' && c != '\t' := by
  have hplain : ['&', '<', '>'].all (fun d => (d != ' ' && d != '\t') && !d.isAlpha) = true := by decide
  have hd := List.all_eq_true.mp hplain d hd
  rw [Bool.and_eq_true, Bool.not_eq_true'] at hd
  obtain ⟨hword, halpha⟩ := hd
  rw [List.takeWhile_cons, if_pos hword]
  rintro rfl
  exact Bool.false_ne_true (halpha.symm.trans (htag d List.mem_cons_self))

/-- A word of letters is the first word of an info string before escaping exactly when it is after it. -/
theorem eq_word_escapeLenient_iff {tag : Text} (htag : ∀ c ∈ tag, c.isAlpha = true) (info : Text) :
    tag = ((escapeLenient info).takeWhile fun c => c != ' ' && c != '\t') ↔
      tag = info.takeWhile fun c => c != ' ' && c != '\t' := by
  induction info generalizing tag with
  | nil => rfl
  | cons d info ih =>
    obtain ⟨lead, he, hlead⟩ := escapeLenient_cons d info
    rw [he]
    rcases hlead with ⟨rfl, _⟩ | ⟨hlead, hd⟩
    · simp only [List.cons_append, List.nil_append, List.takeWhile_cons]
      split
      · cases tag with
        | nil => simp
        | cons c tag =>
          rw [List.cons.injEq, List.cons.injEq, ih fun c hc => htag c (List.mem_cons_of_mem _ hc)]
      · rfl
    · obtain ⟨u, rfl⟩ := exists_cons_of_lead hlead
      have hleft := ne_word_of_special htag (d := '&') (by decide) (u ++ escapeLenient info)
      have hright := ne_word_of_special htag hd info
      exact iff_of_false hleft hright

theorem findIdx_congr {α : Type} {p q : α → Bool} {xs : List α} (h : ∀ x ∈ xs, p x = q x) :
    xs.findIdx p = xs.findIdx q := by
  induction xs with
  | nil => rfl
  | cons x xs ih =>
    rw [List.findIdx_cons, List.findIdx_cons, h x List.mem_cons_self,
      ih fun y hy => h y (List.mem_cons_of_mem x hy)]

/-- Escaping does not change the kind of a block. -/
theorem pass_escapeLenient (info body : Text) :
    (Diagram.CodeBlock.mk (escapeLenient info) (escapeLenient body)).pass =
      (Diagram.CodeBlock.mk info body).pass := by
  apply findIdx_congr
  intro k hk
  rw [Bool.eq_iff_iff, beq_iff_eq, beq_iff_eq]
  exact eq_word_escapeLenient_iff (Diagram.tag_isAlpha hk) info

/-- The references that strict escaping writes. -/
def references : List (Text × Char) :=
  [("&amp;", '&'), ("&lt;", '<'), ("&gt;", '>'), ("&quot;", '"'), ("&#x27;", '\'')]

def reference : Pattern Char where
  read? s := references.findSome? fun (name, c) => (Text.dropStart? name s).map (c, ·)
  shorter := by
    intro s c r h
    obtain ⟨⟨name, d⟩, hmem, hread⟩ := List.exists_of_findSome?_eq_some h
    obtain ⟨rest, hdrop, he⟩ := Option.map_eq_some_iff.mp hread
    obtain ⟨_, rfl⟩ := Prod.mk.inj he
    have hname : ∀ p ∈ references, 0 < p.1.length := by decide
    rw [Text.eq_append_of_dropStart? hdrop, List.length_append]
    exact Nat.lt_add_of_pos_left (hname _ hmem)

/-- Decodes those references, once and from left to right, and no others. -/
def unescape (s : Text) : Text :=
  (reference.split s).flatMap fun
    | .plain t => t
    | .found c => [c]

theorem unescape_nil : unescape [] = [] := by
  rw [unescape, Pattern.split]
  rfl

theorem unescape_of_read? {s r : Text} {c : Char} (h : reference.read? s = some (c, r)) :
    unescape s = c :: unescape r := by
  rw [unescape, reference.split_of_read? h]
  rfl

theorem unescape_cons {c : Char} {s : Text} (h : reference.read? (c :: s) = none) :
    unescape (c :: s) = c :: unescape s := by
  rw [unescape, unescape, reference.split_cons h]
  match reference.split s with
  | [] => rfl
  | .plain _ :: _ => rfl
  | .found _ :: _ => rfl

/-- What is decoded is what strict escaping writes for a special character. -/
theorem reference_read?_eq_some_iff {c : Char} {s r : Text} :
    reference.read? s = some (c, r) ↔ c ∈ ['&', '<', '>', '"', '\''] ∧ s = escapeChar c ++ r := by
  constructor
  · intro h
    obtain ⟨⟨name, d⟩, hmem, hread⟩ := List.exists_of_findSome?_eq_some h
    obtain ⟨rest, hdrop, he⟩ := Option.map_eq_some_iff.mp hread
    obtain ⟨rfl, rfl⟩ := Prod.mk.inj he
    have hnames : ∀ p ∈ references, p.2 ∈ ['&', '<', '>', '"', '\''] ∧ p.1 = escapeChar p.2 := by decide
    obtain ⟨hd, hname⟩ := hnames _ hmem
    exact ⟨hd, (Text.eq_append_of_dropStart? hdrop).trans (congrArg (· ++ rest) hname)⟩
  · rintro ⟨hc, rfl⟩
    simp only [List.mem_cons, List.not_mem_nil, or_false] at hc
    rcases hc with rfl | rfl | rfl | rfl | rfl
    all_goals rfl

theorem escapeChar_of_mem {c : Char} (hc : c ∈ ['&', '<', '>', '"', '\'']) :
    ∃ name, escapeChar c = '&' :: name ∧ '&' ∉ name := by
  simp only [List.mem_cons, List.not_mem_nil, or_false] at hc
  rcases hc with rfl | rfl | rfl | rfl | rfl
  all_goals exact ⟨_, rfl, by decide⟩

theorem unescape_escapeChar_append (c : Char) (s : Text) : unescape (escapeChar c ++ s) = c :: unescape s := by
  by_cases hc : c ∈ ['&', '<', '>', '"', '\'']
  · exact unescape_of_read? (reference_read?_eq_some_iff.mpr ⟨hc, rfl⟩)
  · rw [escapeChar_of_notMem hc]
    apply unescape_cons
    apply Option.eq_none_iff_forall_not_mem.mpr
    rintro ⟨d, r⟩ hread
    obtain ⟨hd, he⟩ := reference_read?_eq_some_iff.mp hread
    obtain ⟨name, hname, _⟩ := escapeChar_of_mem hd
    rw [hname] at he
    obtain ⟨rfl, _⟩ := List.cons.inj he
    exact hc List.mem_cons_self

theorem unescape_escape (s : Text) : unescape (escape s) = s := by
  induction s with
  | nil => exact unescape_nil
  | cons c s ih => rw [escape_cons, unescape_escapeChar_append, ih]

end Markweave.Html
