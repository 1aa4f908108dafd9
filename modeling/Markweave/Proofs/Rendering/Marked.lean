import Markweave.Proofs.Rendering.IdOwner
import Markweave.Proofs.Substitution

namespace Markweave

/-- A place for the number that is drawn after `offset` others. -/
structure Slot where
  owner : IdOwner
  offset : Nat

namespace Slot

/-- The number that stands in the slot when the first one drawn is `first`. -/
def number (first : UInt64) (s : Slot) : UInt64 := first + .ofNat s.offset

def write (first : UInt64) (s : Slot) : Text := '<' :: s.owner.tagStart (s.number first)

end Slot

/-- Characters and slots, in their order. -/
abbrev Marked := List (Char ⊕ Slot)

namespace Marked

def plain (t : Text) : Marked := t.map .inl

def fill (first : UInt64) (m : Marked) : Text :=
  m.flatMap fun
    | .inl c => [c]
    | .inr s => s.write first

def slots (m : Marked) : List Slot := m.filterMap Sum.getRight?

variable {first : UInt64} {a b m : Marked} {s : Slot} {c : Char} {t : Text}

@[simp] theorem fill_nil : fill first [] = [] := rfl
@[simp] theorem fill_char : fill first (.inl c :: m) = c :: fill first m := rfl
@[simp] theorem fill_slot : fill first (.inr s :: m) = s.write first ++ fill first m := rfl
@[simp] theorem slots_nil : slots [] = [] := rfl
@[simp] theorem slots_char : slots (.inl c :: m) = slots m := rfl
@[simp] theorem slots_slot : slots (.inr s :: m) = s :: slots m := rfl

@[simp] theorem fill_append : fill first (a ++ b) = fill first a ++ fill first b := List.flatMap_append

@[simp] theorem slots_append : slots (a ++ b) = slots a ++ slots b := List.filterMap_append

@[simp] theorem fill_plain : fill first (plain t) = t := by
  induction t with
  | nil => rfl
  | cons c t ih => exact congrArg (c :: ·) ih

@[simp] theorem slots_plain : slots (plain t) = [] := by
  induction t with
  | nil => rfl
  | cons c t ih => exact ih

theorem fill_between (first : UInt64) (a b : Text) (m : Marked) :
    fill first (plain a ++ m ++ plain b) = a ++ fill first m ++ b := by
  rw [fill_append, fill_append, fill_plain, fill_plain]

theorem length_slots_le (first : UInt64) (m : Marked) : (slots m).length ≤ (fill first m).length := by
  induction m with
  | nil => exact Nat.le_refl 0
  | cons x m ih =>
    cases x with
    | inl c =>
      rw [slots_char, fill_char, List.length_cons]
      omega
    | inr s =>
      rw [slots_slot, fill_slot, Slot.write, List.length_append, List.length_cons, List.length_cons]
      omega

open Text (dropStart? cut?)

variable {needle p : Text}

/-- No occurrence of the needle starts in the text, whatever follows. -/
def Absent (needle t : Text) : Prop := ∀ u c v, t = u ++ c :: v → ∀ s, dropStart? needle (c :: (v ++ s)) = none

theorem cut?_absent {t : Text} (h : Absent needle t) (s : Text) :
    cut? needle (t ++ s) = (cut? needle s).map fun (before, after) => (t ++ before, after) := by
  induction t with
  | nil =>
    cases hcut : cut? needle s with
    | none => exact hcut
    | some parts => exact hcut
  | cons c t ih =>
    have ht : Absent needle t := fun u d v he => h (c :: u) d v (by rw [he, List.cons_append])
    rw [List.cons_append, cut?, h [] c t rfl, ih ht, Option.map_map]
    rfl

theorem absent_of_notMem {c : Char} {t : Text} (hc : c ∉ t) : Absent (c :: p) t := by
  intro u d v he s
  apply Text.dropStart?_of_head_ne
  rintro rfl
  exact hc (by simp [he])

theorem notMem_write {c : Char} (hlt : c ≠ '<') (hc : IdOwner.isStartChar c = false) (first : UInt64)
    (s : Slot) : c ∉ s.write first := by
  intro h
  rcases List.mem_cons.mp h with rfl | h
  · exact hlt rfl
  · exact IdOwner.notMem_tagStart hc s.owner _ h

/-- A slot begins a tag that opens. -/
theorem absent_closing (first : UInt64) (s : Slot) : Absent ('<' :: '/' :: p) (s.write first) := by
  have hhead : ∃ d t, d ≠ '/' ∧ s.owner.tagStart (s.number first) = d :: t := by
    cases s.owner with
    | diagram kind hk => exact ⟨'d', _, by decide, rfl⟩
    | code => exact ⟨'c', _, by decide, rfl⟩
    | heading digit hd => exact ⟨'h', _, by decide, rfl⟩
  obtain ⟨d, t, hd, ht⟩ := hhead
  have hlt : '<' ∉ d :: t := ht ▸ IdOwner.notMem_tagStart (by decide) s.owner _
  rw [Slot.write, ht]
  intro u c v he r
  cases u with
  | nil =>
    obtain ⟨rfl, rfl⟩ := List.cons.inj he
    rw [dropStart?, if_pos rfl]
    exact Text.dropStart?_of_head_ne hd.symm
  | cons e u =>
    apply absent_of_notMem hlt u c v (List.cons.inj he).2

theorem dropStart?_fill_char (c d : Char) {m : Marked}
    (h : (∀ first, dropStart? p (m.fill first) = none) ∨ ∃ rest, m = plain p ++ rest) :
    (∀ first, dropStart? (c :: p) (fill first (.inl d :: m)) = none) ∨
      ∃ rest, (.inl d :: m : Marked) = plain (c :: p) ++ rest := by
  by_cases hc : c = d
  · subst hc
    rcases h with hnone | ⟨rest, rfl⟩
    · left
      intro first
      rw [fill_char, dropStart?, if_pos rfl, hnone]
    · exact .inr ⟨rest, rfl⟩
  · left
    intro first
    exact Text.dropStart?_of_head_ne hc

theorem dropStart?_fill_of_notMem (hp : '<' ∉ p) (m : Marked) :
    (∀ first, dropStart? p (m.fill first) = none) ∨ ∃ rest, m = plain p ++ rest := by
  induction p generalizing m with
  | nil => exact .inr ⟨m, rfl⟩
  | cons d p ih =>
    simp only [List.mem_cons, not_or] at hp
    match m with
    | [] => exact .inl fun first => rfl
    | .inr s :: m => exact .inl fun first => Text.dropStart?_of_head_ne (Ne.symm hp.1)
    | .inl c :: m => exact dropStart?_fill_char d c (ih hp.2 m)

/-- Whether a text begins with a needle does not depend on the numbers. -/
theorem dropStart?_fill {c : Char} (hp : '<' ∉ p)
    (hm : ∀ s ∈ m.slots, ∀ first r, dropStart? (c :: p) (s.write first ++ r) = none) :
    (∀ first, dropStart? (c :: p) (m.fill first) = none) ∨ ∃ rest, m = plain (c :: p) ++ rest := by
  match m with
  | [] => exact .inl fun first => rfl
  | .inr s :: m => exact .inl fun first => hm s List.mem_cons_self first (fill first m)
  | .inl d :: m => exact dropStart?_fill_char c d (dropStart?_fill_of_notMem hp m)

/-- Nor does it where a needle stands first. -/
theorem cut?_fill {c : Char} (hp : '<' ∉ p) (hm : ∀ s ∈ m.slots, ∀ first, Absent (c :: p) (s.write first)) :
    (∀ first, cut? (c :: p) (m.fill first) = none) ∨
      ∃ before after, m = before ++ plain (c :: p) ++ after ∧
        ∀ first, cut? (c :: p) (m.fill first) = some (before.fill first, after.fill first) := by
  induction m with
  | nil => exact .inl fun first => rfl
  | cons x m ih =>
    have hhead : ∀ s ∈ slots (x :: m), ∀ first r, dropStart? (c :: p) (s.write first ++ r) = none :=
      fun s hs first r => hm s hs first [] '<' _ rfl r
    cases x with
    | inr s =>
      have habsent := hm s List.mem_cons_self
      rcases ih fun q hq => hm q (List.mem_cons_of_mem s hq) with hnone | ⟨before, after, rfl, hcut⟩
      · left
        intro first
        rw [fill_slot, cut?_absent (habsent first), hnone]
        rfl
      · refine .inr ⟨.inr s :: before, after, rfl, ?_⟩
        intro first
        rw [fill_slot, cut?_absent (habsent first), hcut]
        rfl
    | inl d =>
      rcases dropStart?_fill hp hhead with hnone | ⟨rest, hrest⟩
      · have hskip : ∀ first, cut? (c :: p) (fill first (.inl d :: m)) =
            (cut? (c :: p) (fill first m)).map fun (before, after) => (d :: before, after) := by
          intro first
          have hfirst := hnone first
          rw [fill_char] at hfirst ⊢
          rw [cut?, hfirst]
        rcases ih hm with hnone | ⟨before, after, rfl, hcut⟩
        · left
          intro first
          rw [hskip, hnone]
          rfl
        · refine .inr ⟨.inl d :: before, after, rfl, ?_⟩
          intro first
          rw [hskip, hcut]
          rfl
      · refine .inr ⟨[], rest, hrest, ?_⟩
        intro first
        rw [hrest, fill_append, fill_plain]
        exact Text.cut?_eq_some_of_dropStart? (Text.dropStart?_append _ _)

/-- Replacing works on the text around slots. -/
theorem replace_fill {o : Char} {os : Text} (hlt : '<' ∉ o :: os) (ho : IdOwner.isStartChar o = false)
    (new : Text) (m : Marked) :
    ∃ m' : Marked, m'.slots = m.slots ∧ ∀ first, Text.replace (o :: os) new (m.fill first) = m'.fill first := by
  have hprefixed : ∀ a : Text, ∃ m' : Marked, m'.slots = m.slots ∧
      ∀ first, Text.replace (o :: os) new (a ++ m.fill first) = m'.fill first := by
    induction m with
    | nil =>
      intro a
      refine ⟨plain (Text.replace (o :: os) new a), slots_plain, ?_⟩
      intro first
      rw [fill_nil, List.append_nil, fill_plain]
    | cons x m ih =>
      intro a
      cases x with
      | inl c =>
        obtain ⟨m', hslots, hfill⟩ := ih (a ++ [c])
        refine ⟨m', hslots, ?_⟩
        intro first
        rw [← hfill first, List.append_assoc]
        rfl
      | inr s =>
        obtain ⟨m', hslots, hfill⟩ := ih []
        refine ⟨plain (Text.replace (o :: os) new a) ++ .inr s :: m', by simp [hslots], ?_⟩
        intro first
        have hstart : o ∉ s.owner.tagStart (s.number first) := IdOwner.notMem_tagStart ho s.owner _
        rw [fill_slot, Slot.write, List.cons_append, Text.replace_append_wall new (List.cons_ne_nil o os) hlt,
          Text.replace_append_of_notMem new hstart, fill_append, fill_plain, fill_slot, ← hfill first]
        rfl
  exact hprefixed []

end Marked
end Markweave
