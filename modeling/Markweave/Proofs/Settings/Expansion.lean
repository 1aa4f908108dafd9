import Mathlib.Data.List.Chain
import Markweave.Proofs.Except
import Markweave.Proofs.Text.Occurrence
import Markweave.Proofs.Text.Pattern
import Markweave.Settings.Expansion

namespace Markweave

namespace Environment

/-- Each of the names is set to the same text. A shorter name comes first, since a longer one may spell its line. -/
def binding (names : List Text) : Environment :=
  .ofList ((names.mergeSort fun m n => m.length ≤ n.length).map (·, ['x']))

theorem dropStart?_line_eq_none {m n : Text} (hne : m ≠ n) (hlength : m.length ≤ n.length) :
    Text.dropStart? (n ++ ['=']) (m ++ ['=', 'x']) = none := by
  rw [Text.dropStart?_eq_none_iff]
  rintro ⟨r, hr⟩
  have hsplit : m ++ ['=', 'x'] = m ++ ['='] ++ ['x'] := (List.append_assoc m ['='] ['x']).symm
  rw [hsplit] at hr
  rcases List.eq_nil_or_concat r with rfl | ⟨r', d, rfl⟩
  · rw [List.append_nil] at hr
    exact absurd (List.append_inj' hr rfl).2 (by decide)
  · rw [List.concat_eq_append, ← List.append_assoc] at hr
    have hfront := (List.append_inj' hr rfl).1
    have hcount := congrArg List.length hfront
    simp only [List.length_append, List.length_singleton] at hcount
    obtain rfl : r' = [] := List.eq_nil_of_length_eq_zero (by omega)
    rw [List.append_nil] at hfront
    exact hne (List.append_inj' hfront rfl).1.symm

theorem get?_binding {names : List Text} {n : Text} (hn : n ∈ names) (hne : n ≠ []) :
    (binding names).get? n = some ['x'] := by
  have hsorted : (names.mergeSort fun m n => m.length ≤ n.length).Pairwise fun m n => decide (m.length ≤ n.length) :=
    List.pairwise_mergeSort (fun a b c hab hbc => by simp only [decide_eq_true_eq] at *; omega)
      (fun a b => by simp only [Bool.or_eq_true, decide_eq_true_eq]; omega) names
  have hmem : n ∈ names.mergeSort fun m n => m.length ≤ n.length := List.mem_mergeSort.mpr hn
  rw [get?, if_neg hne, binding, ofList]
  generalize names.mergeSort _ = sorted at hsorted hmem
  induction sorted with
  | nil => cases hmem
  | cons m sorted ih =>
    rw [List.pairwise_cons] at hsorted
    rw [List.map_cons, List.map_cons, List.findSome?_cons]
    by_cases he : m = n
    · subst he
      have hline : Text.dropStart? (m ++ ['=']) (m ++ ['=', 'x']) = some ['x'] :=
        Text.dropStart?_eq_some_iff.mpr (List.append_assoc m ['='] ['x']).symm
      rw [hline]
    · have hmem := (List.mem_cons.mp hmem).resolve_left (Ne.symm he)
      have hlength := of_decide_eq_true (hsorted.1 n hmem)
      rw [dropStart?_line_eq_none he hlength]
      exact ih hsorted.2 hmem

theorem get?_nil (env : Environment) : env.get? [] = none := if_pos rfl

end Environment

namespace Settings

open Segment (isNameChar ofBraces ofText)

/-- A reference in braces, up to the first closing one, and what follows. -/
def readBraced? (s : Text) : Option (Segment × Text) :=
  (Text.dropStart? ['$', '\x7b'] s).bind fun rest => (Text.cut? ['\x7d'] rest).map (Prod.map ofBraces id)

theorem readBraced?_eq_some {s rest : Text} {segment : Segment} (h : readBraced? s = some (segment, rest)) :
    ∃ inner r, s = '$' :: '\x7b' :: r ∧ Text.cut? ['\x7d'] r = some (inner, rest) ∧ segment = ofBraces inner := by
  simp only [readBraced?, Option.bind_eq_some_iff, Option.map_eq_some_iff] at h
  obtain ⟨r, hr, ⟨inner, _⟩, hcut, he⟩ := h
  obtain ⟨rfl, rfl⟩ := Prod.mk.inj he
  exact ⟨inner, r, Text.eq_append_of_dropStart? hr, hcut, rfl⟩

theorem length_of_readBraced? {s rest : Text} {segment : Segment} (h : readBraced? s = some (segment, rest)) :
    rest.length < s.length := by
  obtain ⟨inner, r, rfl, hcut, _⟩ := readBraced?_eq_some h
  rw [Text.eq_append_of_cut? hcut]
  simp only [List.length_append, List.length_cons]
  omega

def bracedReference : Pattern Segment where
  read? := readBraced?
  shorter := length_of_readBraced?

def Segment.ofPiece : Piece Segment → Segment
  | .plain t => .verbatim t
  | .found segment => segment

/-- A text as its references in braces and the stretches around them. -/
def braced (s : Text) : List Segment := (bracedReference.split s).map Segment.ofPiece

/-- What the segments stand for, or the name of the first that stands for nothing. -/
def fill (env : Environment) (segments : List Segment) : Except Text Text :=
  (segments.mapM (Segment.resolve env)).map List.flatten

/-- The segments with one text in the place of every reference. -/
def marked (mark : Text) (segments : List Segment) : Text :=
  segments.flatMap fun
    | .verbatim t => t
    | .reference _ _ => mark

/-- Behind a dollar stands neither a dollar nor a character of a name. -/
def DollarsIdle (t : Text) : Prop := t.IsChain fun c d => c = '$' → d ≠ '$' ∧ isNameChar d = false

instance {t : Text} : Decidable (DollarsIdle t) := inferInstanceAs (Decidable (List.IsChain _ _))

variable {env : Environment} {s t : Text} {segments : List Segment} {ps : List (Piece Segment)} {c : Char}

section Fill

theorem fill_cons (env : Environment) (segment : Segment) (segments : List Segment) :
    fill env (segment :: segments) = segment.resolve env >>= fun t => (fill env segments).map (t ++ ·) := by
  rw [fill, fill, List.mapM_cons]
  cases segment.resolve env with
  | error e => rfl
  | ok t => cases segments.mapM (Segment.resolve env) <;> rfl

theorem fill_verbatim (env : Environment) (t : Text) (segments : List Segment) :
    fill env (.verbatim t :: segments) = (fill env segments).map (t ++ ·) := by
  rw [fill_cons]
  rfl

theorem resolve_eq_error {segment : Segment} {n : Text} (h : segment.resolve env = .error n) :
    segment = .reference n none ∧ env.get? n = none := by
  cases segment with
  | verbatim t => cases h
  | reference name fallback =>
    cases hget : env.get? name with
    | some value => simp [Segment.resolve, hget] at h
    | none =>
      cases fallback with
      | some t => simp [Segment.resolve, hget] at h
      | none =>
        simp only [Segment.resolve, hget, Except.error.injEq] at h
        subst h
        exact ⟨rfl, hget⟩

/-- Filling fails at a reference without a fallback whose name is not set. -/
theorem fill_eq_error {n : Text} (h : fill env segments = .error n) :
    .reference n none ∈ segments ∧ env.get? n = none := by
  induction segments with
  | nil => cases h
  | cons segment segments ih =>
    rw [fill_cons, Except.bind_eq_error_iff] at h
    rcases h with h | ⟨t, _, h⟩
    · obtain ⟨rfl, hget⟩ := resolve_eq_error h
      exact ⟨List.mem_cons_self, hget⟩
    · obtain ⟨hmem, hget⟩ := ih (Except.map_eq_error_iff.mp h)
      exact ⟨List.mem_cons_of_mem _ hmem, hget⟩

theorem get?_ne_none_of_fill {n : Text} (h : fill env segments = .ok t) (hn : .reference n none ∈ segments) :
    env.get? n ≠ none := by
  induction segments generalizing t with
  | nil => cases hn
  | cons segment segments ih =>
    rw [fill_cons, Except.bind_eq_ok_iff] at h
    obtain ⟨value, hvalue, hrest⟩ := h
    obtain ⟨rest, hrest, _⟩ := Except.map_eq_ok_iff.mp hrest
    rcases List.mem_cons.mp hn with rfl | hn
    · intro hget
      simp [Segment.resolve, hget] at hvalue
    · exact ih hrest hn

/-- When every name is set to one text, that text stands in the place of every reference. -/
theorem fill_eq_marked {value : Text} (h : ∀ n fallback, .reference n fallback ∈ segments → env.get? n = some value) :
    fill env segments = .ok (marked value segments) := by
  induction segments with
  | nil => rfl
  | cons segment segments ih =>
    have hrest := ih fun n fallback hn => h n fallback (List.mem_cons_of_mem _ hn)
    have hfirst : segment.resolve env = .ok (marked value [segment]) := by
      cases segment with
      | verbatim t => exact congrArg Except.ok (List.append_nil t).symm
      | reference n fallback =>
        have hvalue : Segment.resolve env (.reference n fallback) = .ok value := by
          simp [Segment.resolve, h n fallback List.mem_cons_self]
        rw [hvalue]
        exact congrArg Except.ok (List.append_nil value).symm
    have happend : marked value (segment :: segments) = marked value [segment] ++ marked value segments := by
      rw [marked, ← List.singleton_append, List.flatMap_append]
      rfl
    rw [fill_cons, hfirst, hrest, happend]
    rfl

end Fill

section Braced

/-- Braces always hold a reference, and one without a name has no fallback. -/
theorem exists_ofBraces (inner : Text) :
    ∃ n fallback, ofBraces inner = .reference n fallback ∧ (n = [] → fallback = none) := by
  rw [ofBraces]
  split
  · exact ⟨_, _, rfl, nofun⟩
  · exact ⟨_, _, rfl, fun _ => rfl⟩

theorem marked_ofBraces (mark inner : Text) (segments : List Segment) :
    marked mark (ofBraces inner :: segments) = mark ++ marked mark segments := by
  obtain ⟨n, fallback, he, _⟩ := exists_ofBraces inner
  rw [he]
  rfl

theorem braced_nil : braced [] = [] := by
  rw [braced, Pattern.split]
  rfl

theorem fill_consChar : fill env ((Piece.consChar c ps).map Segment.ofPiece) =
    (fill env (ps.map Segment.ofPiece)).map (c :: ·) := by
  match ps with
  | [] => rfl
  | .plain t :: ps =>
    rw [Piece.consChar, List.map_cons, List.map_cons, Segment.ofPiece, Segment.ofPiece, fill_verbatim, fill_verbatim]
    cases fill env (ps.map Segment.ofPiece) <;> rfl
  | .found segment :: ps => exact fill_verbatim env [c] _

theorem marked_consChar (mark : Text) :
    marked mark ((Piece.consChar c ps).map Segment.ofPiece) = c :: marked mark (ps.map Segment.ofPiece) := by
  match ps with
  | [] => rfl
  | .plain t :: ps => rfl
  | .found segment :: ps => rfl

theorem read?_eq_none (h : ∀ r, c :: s ≠ '$' :: '\x7b' :: r) : bracedReference.read? (c :: s) = none := by
  have hstart : Text.dropStart? ['$', '\x7b'] (c :: s) = none := by
    rw [Text.dropStart?_eq_none_iff]
    rintro ⟨r, hr⟩
    exact h r hr.symm
  show readBraced? (c :: s) = none
  rw [readBraced?, hstart]
  rfl

theorem read?_dollars_eq_none (s : Text) : bracedReference.read? ('$' :: '$' :: s) = none := read?_eq_none nofun

theorem read?_brace_eq_none (s : Text) : bracedReference.read? ('\x7b' :: s) = none := read?_eq_none nofun

theorem read?_plain_eq_none (hc : c ≠ '$') (s : Text) : bracedReference.read? (c :: s) = none :=
  read?_eq_none fun _ hr => hc (List.cons.inj hr).1

theorem fill_braced_cons (env : Environment) (h : bracedReference.read? (c :: s) = none) :
    fill env (braced (c :: s)) = (fill env (braced s)).map (c :: ·) := by
  rw [braced, bracedReference.split_cons h, fill_consChar, braced]

theorem marked_braced_cons (mark : Text) (h : bracedReference.read? (c :: s) = none) :
    marked mark (braced (c :: s)) = c :: marked mark (braced s) := by
  rw [braced, bracedReference.split_cons h, marked_consChar, braced]

theorem read?_of_cut? {inner rest : Text} (h : Text.cut? ['\x7d'] s = some (inner, rest)) :
    bracedReference.read? ('$' :: '\x7b' :: s) = some (ofBraces inner, rest) := by
  show (Text.cut? ['\x7d'] s).map _ = _
  rw [h]
  rfl

theorem braced_of_cut? {inner rest : Text} (h : Text.cut? ['\x7d'] s = some (inner, rest)) :
    braced ('$' :: '\x7b' :: s) = ofBraces inner :: braced rest := by
  rw [braced, bracedReference.split_of_read? (read?_of_cut? h)]
  rfl

theorem read?_open_eq_none (h : Text.cut? ['\x7d'] s = none) : bracedReference.read? ('$' :: '\x7b' :: s) = none := by
  show (Text.cut? ['\x7d'] s).map _ = _
  rw [h]
  rfl

theorem marked_braced_open (mark : Text) (h : Text.cut? ['\x7d'] s = none) :
    marked mark (braced ('$' :: '\x7b' :: s)) = '$' :: '\x7b' :: marked mark (braced s) := by
  rw [marked_braced_cons mark (read?_open_eq_none h), marked_braced_cons mark (read?_brace_eq_none s)]

/-- A mark that begins as a reference does keeps the first character of a text. -/
theorem head?_marked_braced (s : Text) : (marked ['$', '\x7b'] (braced s)).head? = s.head? := by
  match s with
  | [] =>
    rw [braced_nil]
    rfl
  | c :: s =>
    cases hread : bracedReference.read? (c :: s) with
    | none =>
      rw [marked_braced_cons _ hread]
      rfl
    | some find =>
      obtain ⟨inner, r, hs, hcut, _⟩ := readBraced?_eq_some hread
      rw [hs, braced_of_cut? hcut, marked_ofBraces]
      rfl

/-- Without the beginning of a reference there is nothing to fill in. -/
theorem fill_braced_of_not_contains (env : Environment) (h : ¬ ['$', '\x7b'] <:+: s) :
    fill env (braced s) = .ok s := by
  induction s with
  | nil =>
    rw [braced_nil]
    rfl
  | cons c s ih =>
    rw [List.infix_cons_iff, not_or] at h
    have hread : bracedReference.read? (c :: s) = none := by
      apply read?_eq_none
      rintro r hr
      exact h.1 ⟨r, hr.symm⟩
    rw [fill_braced_cons env hread, ih h.2]
    rfl

end Braced

section Read

theorem ofText_of_cut? {inner rest : Text} (h : Text.cut? ['\x7d'] s = some (inner, rest)) :
    ofText ('$' :: '\x7b' :: s) = ofBraces inner :: ofText rest := by
  rw [ofText]
  split <;> simp_all

theorem ofText_open (h : Text.cut? ['\x7d'] s = none) :
    ofText ('$' :: '\x7b' :: s) = .verbatim ['$', '\x7b'] :: ofText s := by
  rw [ofText]
  split <;> simp_all

/-- A dollar that neither opens braces nor has another one behind it. -/
structure Bare (s : Text) : Prop where
  brace : ∀ r, s = '\x7b' :: r → False
  dollar : ∀ r, s = '$' :: r → False

theorem Bare.read?_eq_none (h : Bare s) : bracedReference.read? ('$' :: s) = none :=
  Settings.read?_eq_none fun r hr => h.brace r (List.cons.inj hr).2

theorem Bare.ofText_idle (h : Bare s) (hname : (s.takeWhile isNameChar).isEmpty = true) :
    ofText ('$' :: s) = .verbatim ['$'] :: ofText s := by
  rw [ofText, if_pos hname]
  · exact h.brace
  · exact h.dollar

theorem Bare.ofText_name (h : Bare s) (hname : ¬ (s.takeWhile isNameChar).isEmpty = true) :
    ofText ('$' :: s) = .reference (s.takeWhile isNameChar) none :: ofText (s.dropWhile isNameChar) := by
  rw [ofText, if_neg hname]
  · exact h.brace
  · exact h.dollar

theorem ofText_cons (hc : c ≠ '$') : ofText (c :: s) = .verbatim [c] :: ofText s := by
  rw [ofText]
  all_goals simp [hc]

theorem isEmpty_takeWhile_iff : (s.takeWhile isNameChar).isEmpty = true ↔ ∀ d ∈ s.head?, isNameChar d = false := by
  cases s with
  | nil => simp
  | cons d s => cases h : isNameChar d <;> simp [h]

/-- To prove something of all texts, read them as they are read for expansion. -/
theorem ofText_induction {motive : Text → Prop} (nil : motive [])
    (braces : ∀ s inner rest, Text.cut? ['\x7d'] s = some (inner, rest) → motive rest → motive ('$' :: '\x7b' :: s))
    (unclosed : ∀ s, Text.cut? ['\x7d'] s = none → motive s → motive ('$' :: '\x7b' :: s))
    (dollars : ∀ s, motive s → motive ('$' :: '$' :: s))
    (idle : ∀ s, Bare s → (s.takeWhile isNameChar).isEmpty = true → motive s → motive ('$' :: s))
    (name : ∀ s, Bare s → ¬ (s.takeWhile isNameChar).isEmpty = true → motive (s.dropWhile isNameChar) →
      motive ('$' :: s))
    (other : ∀ c s, c ≠ '$' → motive s → motive (c :: s)) (s : Text) : motive s :=
  Segment.ofText.induct motive nil braces unclosed dollars (fun s hbrace hdollar => idle s ⟨hbrace, hdollar⟩)
    (fun s hbrace hdollar => name s ⟨hbrace, hdollar⟩) (fun c s _ _ hc => other c s hc) s

end Read

section Idle

theorem dollarsIdle_cons_iff :
    DollarsIdle (c :: t) ↔ (c = '$' → ∀ d ∈ t.head?, d ≠ '$' ∧ isNameChar d = false) ∧ DollarsIdle t := by
  rw [DollarsIdle, List.isChain_cons]
  exact and_congr_left fun _ => ⟨fun h hc d hd => h d hd hc, fun h d hd hc => h hc d hd⟩

theorem dollarsIdle_open_iff : DollarsIdle ('$' :: '\x7b' :: t) ↔ DollarsIdle t := by
  have hbrace : isNameChar '\x7b' = false := by decide +kernel
  rw [dollarsIdle_cons_iff, dollarsIdle_cons_iff]
  simp [hbrace]

theorem idle_iff_of_read? (hread : bracedReference.read? (c :: s) = none) :
    DollarsIdle (marked ['$', '\x7b'] (braced (c :: s))) ↔
      (c = '$' → ∀ d ∈ s.head?, d ≠ '$' ∧ isNameChar d = false) ∧ DollarsIdle (marked ['$', '\x7b'] (braced s)) := by
  rw [marked_braced_cons _ hread, dollarsIdle_cons_iff, head?_marked_braced]

/-- By the reading of a text from the left: where dollars are idle, nothing is read but braces. -/
theorem fill_ofText (env : Environment) (h : DollarsIdle (marked ['$', '\x7b'] (braced s))) :
    fill env (ofText s) = fill env (braced s) := by
  induction s using ofText_induction with
  | nil => rw [ofText, braced_nil]
  | braces s inner rest hcut ih =>
    rw [braced_of_cut? hcut, marked_ofBraces] at h
    rw [ofText_of_cut? hcut, braced_of_cut? hcut, fill_cons, fill_cons, ih (dollarsIdle_open_iff.mp h)]
  | unclosed s hcut ih =>
    rw [marked_braced_open _ hcut] at h
    rw [ofText_open hcut, fill_verbatim, ih (dollarsIdle_open_iff.mp h), fill_braced_cons env (read?_open_eq_none hcut),
      fill_braced_cons env (read?_brace_eq_none s)]
    cases fill env (braced s) <;> rfl
  | dollars s ih =>
    rw [idle_iff_of_read? (read?_dollars_eq_none s)] at h
    exact absurd rfl (h.1 rfl '$' rfl).1
  | idle s hbare hname ih =>
    rw [idle_iff_of_read? hbare.read?_eq_none] at h
    rw [hbare.ofText_idle hname, fill_verbatim, ih h.2, fill_braced_cons env hbare.read?_eq_none]
    rfl
  | name s hbare hname ih =>
    rw [idle_iff_of_read? hbare.read?_eq_none] at h
    exact absurd (isEmpty_takeWhile_iff.mpr fun d hd => (h.1 rfl d hd).2) hname
  | other c s hc ih =>
    rw [idle_iff_of_read? (read?_plain_eq_none hc s)] at h
    rw [ofText_cons hc, fill_verbatim, ih h.2, fill_braced_cons env (read?_plain_eq_none hc s)]
    rfl

end Idle

section Busy

def leadingDollars (t : Text) : Nat := (t.takeWhile (· = '$')).length

theorem leadingDollars_dollar (t : Text) : leadingDollars ('$' :: t) = leadingDollars t + 1 := rfl

theorem leadingDollars_cons (hc : c ≠ '$') (t : Text) : leadingDollars (c :: t) = 0 := by
  rw [leadingDollars, List.takeWhile_cons_of_neg (by simpa using hc)]
  rfl

/-- Reading dollars makes them fewer. -/
theorem leadingDollars_marked_ofText (s : Text) :
    leadingDollars (marked ['x'] (ofText s)) ≤ leadingDollars (marked ['x'] (braced s)) := by
  induction s using ofText_induction with
  | nil => rw [ofText, braced_nil]
  | braces s inner rest hcut ih =>
    rw [ofText_of_cut? hcut, marked_ofBraces]
    exact Nat.zero_le _
  | unclosed s hcut ih =>
    rw [ofText_open hcut, marked_braced_open _ hcut]
    exact Nat.le_refl 1
  | dollars s ih =>
    rw [ofText, marked_braced_cons _ (read?_dollars_eq_none s), leadingDollars_dollar]
    refine Nat.succ_le_succ ?_
    cases hnext : bracedReference.read? ('$' :: s) with
    | none =>
      rw [marked_braced_cons _ hnext, leadingDollars_dollar]
      exact Nat.le_succ_of_le ih
    | some find =>
      -- The second dollar opens braces for the one reading and not for the other.
      obtain ⟨inner, r, hs, hcut, _⟩ := readBraced?_eq_some hnext
      rw [(List.cons.inj hs).2, ofText_cons (by decide)]
      exact Nat.zero_le _
  | idle s hbare hname ih =>
    rw [hbare.ofText_idle hname, marked_braced_cons _ hbare.read?_eq_none]
    exact Nat.succ_le_succ ih
  | name s hbare hname ih =>
    rw [hbare.ofText_name hname]
    exact Nat.zero_le _
  | other c s hc ih =>
    rw [ofText_cons hc]
    exact Nat.le_trans (Nat.le_of_eq (leadingDollars_cons hc _)) (Nat.zero_le _)

/-- Behind a dollar that is left out the readings differ. -/
theorem marked_ofText_ne (s : Text) : marked ['x'] (ofText s) ≠ marked ['x'] (braced ('$' :: s)) := by
  cases hnext : bracedReference.read? ('$' :: s) with
  | none =>
    intro h
    have hle := leadingDollars_marked_ofText s
    rw [h, marked_braced_cons _ hnext, leadingDollars_dollar] at hle
    omega
  | some find =>
    obtain ⟨inner, r, hs, hcut, _⟩ := readBraced?_eq_some hnext
    rw [hs, (List.cons.inj hs).2, ofText_cons (by decide), braced_of_cut? hcut, marked_ofBraces]
    intro h
    exact absurd (List.cons.inj h).1 (by decide)

/-- With one text for every reference a text tells whether its dollars are idle. -/
theorem dollarsIdle_of_marked (h : marked ['x'] (ofText s) = marked ['x'] (braced s)) :
    DollarsIdle (marked ['$', '\x7b'] (braced s)) := by
  induction s using ofText_induction with
  | nil =>
    rw [braced_nil]
    exact .nil
  | braces s inner rest hcut ih =>
    rw [ofText_of_cut? hcut, braced_of_cut? hcut, marked_ofBraces, marked_ofBraces] at h
    rw [braced_of_cut? hcut, marked_ofBraces]
    exact dollarsIdle_open_iff.mpr (ih (List.append_cancel_left h))
  | unclosed s hcut ih =>
    rw [ofText_open hcut, marked_braced_open _ hcut] at h
    rw [marked_braced_open _ hcut]
    exact dollarsIdle_open_iff.mpr (ih (List.cons.inj (List.cons.inj h).2).2)
  | dollars s ih =>
    rw [ofText, marked_braced_cons _ (read?_dollars_eq_none s)] at h
    exact absurd (List.cons.inj h).2 (marked_ofText_ne s)
  | idle s hbare hname ih =>
    rw [hbare.ofText_idle hname, marked_braced_cons _ hbare.read?_eq_none] at h
    rw [idle_iff_of_read? hbare.read?_eq_none]
    refine ⟨fun _ d hd => ⟨?_, isEmpty_takeWhile_iff.mp hname d hd⟩, ih (List.cons.inj h).2⟩
    rintro rfl
    obtain ⟨r, hr⟩ := List.head?_eq_some_iff.mp hd
    exact hbare.dollar r hr
  | name s hbare hname ih =>
    rw [hbare.ofText_name hname, marked_braced_cons _ hbare.read?_eq_none] at h
    exact absurd (List.cons.inj h).1 (by decide)
  | other c s hc ih =>
    rw [ofText_cons hc, marked_braced_cons _ (read?_plain_eq_none hc s)] at h
    rw [idle_iff_of_read? (read?_plain_eq_none hc s)]
    exact ⟨fun h => absurd h hc, ih (List.cons.inj h).2⟩

theorem reference_mem_verbatim_cons {n : Text} {fallback : Option Text} :
    .reference n fallback ∈ .verbatim t :: segments ↔ .reference n fallback ∈ segments := by
  simp

theorem fallback_of_mem_ofText {fallback : Option Text} (h : .reference [] fallback ∈ ofText s) : fallback = none := by
  induction s using ofText_induction with
  | nil => simp [ofText] at h
  | braces s inner rest hcut ih =>
    obtain ⟨n, fallback', he, hfallback⟩ := exists_ofBraces inner
    rw [ofText_of_cut? hcut, he, List.mem_cons] at h
    rcases h with h | h
    · obtain ⟨rfl, rfl⟩ := Segment.reference.inj h
      exact hfallback rfl
    · exact ih h
  | unclosed s hcut ih =>
    rw [ofText_open hcut, reference_mem_verbatim_cons] at h
    exact ih h
  | dollars s ih =>
    rw [ofText, reference_mem_verbatim_cons] at h
    exact ih h
  | idle s hbare hname ih =>
    rw [hbare.ofText_idle hname, reference_mem_verbatim_cons] at h
    exact ih h
  | name s hbare hname ih =>
    rw [hbare.ofText_name hname, List.mem_cons] at h
    rcases h with h | h
    · exact (Segment.reference.inj h).2
    · exact ih h
  | other c s hc ih =>
    rw [ofText_cons hc, reference_mem_verbatim_cons] at h
    exact ih h

def Segment.name? : Segment → Option Text
  | .verbatim _ => none
  | .reference name _ => some name

/-- In an environment that sets every name that is read in either way, the readings differ if any dollar is not idle. -/
theorem dollarsIdle_of_fill (hnames : ∀ fallback, .reference [] fallback ∉ braced s)
    (h : ∀ env, fill env (ofText s) = fill env (braced s)) : DollarsIdle (marked ['$', '\x7b'] (braced s)) := by
  have hset : ∀ segments ⊆ ofText s ++ braced s, (∀ fallback, .reference [] fallback ∉ segments) →
      fill (.binding ((ofText s ++ braced s).filterMap Segment.name?)) segments = .ok (marked ['x'] segments) := by
    intro segments hsegments hnone
    apply fill_eq_marked
    intro n fallback hn
    refine Environment.get?_binding (List.mem_filterMap.mpr ⟨_, hsegments hn, rfl⟩) ?_
    rintro rfl
    exact hnone fallback hn
  have hbraced := hset (braced s) (List.subset_append_right _ _) hnames
  have hread := h (.binding ((ofText s ++ braced s).filterMap Segment.name?))
  rw [hbraced] at hread
  have hnone : ∀ fallback, .reference [] fallback ∉ ofText s := by
    intro fallback hn
    obtain rfl := fallback_of_mem_ofText hn
    exact get?_ne_none_of_fill hread hn (Environment.get?_nil _)
  rw [hset (ofText s) (List.subset_append_left _ _) hnone] at hread
  exact dollarsIdle_of_marked (Except.ok.inj hread)

end Busy

def Segment.spell : Segment → Text
  | .verbatim t => t
  | .reference name none => ['$', '\x7b'] ++ name ++ ['\x7d']
  | .reference name (some fallback) => ['$', '\x7b'] ++ name ++ ":-" ++ fallback ++ ['\x7d']

theorem spell_ofBraces (inner : Text) : (ofBraces inner).spell = ['$', '\x7b'] ++ inner ++ ['\x7d'] := by
  rw [ofBraces]
  split
  · next c name fallback hcut =>
    rw [Text.eq_append_of_cut? hcut, Segment.spell]
    simp only [List.append_assoc]
  · rfl

/-- Nothing of a text is lost between its references. -/
theorem flatMap_spell_braced (s : Text) : (braced s).flatMap Segment.spell = s := by
  have hcons : ∀ (c : Char) (ps : List (Piece Segment)),
      ((Piece.consChar c ps).map Segment.ofPiece).flatMap Segment.spell =
        c :: (ps.map Segment.ofPiece).flatMap Segment.spell := by
    intro c ps
    match ps with
    | [] => rfl
    | .plain t :: ps => rfl
    | .found segment :: ps => rfl
  induction s using bracedReference.induction with
  | nil =>
    rw [braced_nil]
    rfl
  | found s segment rest hread ih =>
    obtain ⟨inner, r, rfl, hcut, rfl⟩ := readBraced?_eq_some hread
    rw [braced_of_cut? hcut, List.flatMap_cons, ih, spell_ofBraces, Text.eq_append_of_cut? hcut]
    simp only [List.append_assoc]
    rfl
  | skip c s hread ih =>
    rw [braced, bracedReference.split_cons hread, hcons]
    exact congrArg (c :: ·) ih

/-- A text reads as references in braces and what it spells around them. It expands by them alone, and fails only where
one of them has neither a value nor a fallback, in every environment exactly when it holds no open brace behind a dollar
or no dollar that another one or a name follows. Braces without a name, which nothing can set, hide such a dollar. -/
theorem expand_eq_fill_iff (s : Text) :
    (braced s).flatMap Segment.spell = s ∧
    ((Text.contains ['$', '\x7b'] s = true → DollarsIdle (marked ['$', '\x7b'] (braced s))) →
      ∀ env, expand env s = fill env (braced s)) ∧
    ((∀ fallback, .reference [] fallback ∉ braced s) → (∀ env, expand env s = fill env (braced s)) →
      Text.contains ['$', '\x7b'] s = true → DollarsIdle (marked ['$', '\x7b'] (braced s))) ∧
    ∀ env n, fill env (braced s) = .error n → .reference n none ∈ braced s ∧ env.get? n = none := by
  refine ⟨flatMap_spell_braced s, ?_, ?_, fun env n h => fill_eq_error h⟩
  · intro hidle env
    rw [expand]
    split
    · next hopen => exact fill_ofText env (hidle hopen)
    · next hopen =>
      rw [Text.contains_iff_infix] at hopen
      exact (fill_braced_of_not_contains env hopen).symm
  · intro hnames hexpand hopen
    apply dollarsIdle_of_fill hnames
    intro env
    have henv := hexpand env
    rwa [expand, if_pos hopen] at henv

/-- Dollars before a sign and at the end. -/
theorem expand_eq_fill_iff_idle_dollars :
    let s : Text := "a$-$\x7bTEAM\x7d$"
    (braced s = [.verbatim "a$-", .reference "TEAM" none, .verbatim "$"] ∧
      DollarsIdle (marked ['$', '\x7b'] (braced s)) ∧ ∀ fallback, .reference [] fallback ∉ braced s) ∧
      (∀ env, expand env s = fill env (braced s)) ∧ expand ⟨["TEAM=ops".toList]⟩ s = .ok "a$-ops$".toList ∧
      .reference "TEAM" none ∈ braced s ∧ (Environment.mk []).get? "TEAM" = none := by
  intro s
  have hbraced : braced s = [.verbatim "a$-", .reference "TEAM" none, .verbatim "$"] := by decide +kernel
  have hidle : DollarsIdle (marked ['$', '\x7b'] (braced s)) := by
    rw [hbraced]
    decide +kernel
  have hnames : ∀ fallback, .reference [] fallback ∉ braced s := by
    rw [hbraced]
    simp
  have hexpand := (expand_eq_fill_iff s).2.1 fun _ => hidle
  have hunset : fill ⟨[]⟩ (braced s) = .error "TEAM" := by
    rw [hbraced]
    rfl
  refine ⟨⟨hbraced, (expand_eq_fill_iff s).2.2.1 hnames hexpand (by decide), hnames⟩, hexpand, ?_,
    (expand_eq_fill_iff s).2.2.2 _ _ hunset⟩
  rw [hexpand, hbraced]
  rfl

/-- The name behind a dollar is looked up once another part of the text is in braces. -/
theorem not_forall_expand_eq_fill : ¬ ∀ (env : Environment) (s : Text), expand env s = fill env (braced s) := by
  intro h
  have hname := h ⟨[]⟩ "$ui.$\x7bYO_APP:-app\x7d"
  have hread : expand ⟨[]⟩ "$ui.$\x7bYO_APP:-app\x7d" = .error "ui" := by decide +kernel
  have hbraced : fill ⟨[]⟩ (braced "$ui.$\x7bYO_APP:-app\x7d") = .ok "$ui.app" := by decide +kernel
  rw [hread, hbraced] at hname
  cases hname

end Settings
end Markweave
