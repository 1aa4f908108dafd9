import Mathlib.Data.List.Forall2
import Markweave.Proofs.Markdown.Opening
import Markweave.Proofs.Markdown.Past
import Markweave.Proofs.Source.BlankLines

namespace Markweave.Markdown

open Source (SameCode)

variable {opts : Options} {o o' : Outline} {s : Text} {past past' : List Block}

/-- Blocks that are the same but for fenced code, and that comes back the same. -/
inductive SameBlock : Block → Block → Prop
  | same (b : Block) : SameBlock b b
  | code (info : Text) {c c' : Text} (h : SameCode c c') : SameBlock (.code (.fenced info) c) (.code (.fenced info) c')

theorem forall₂_sameBlock_refl (bs : List Block) : List.Forall₂ SameBlock bs bs := by
  rw [List.forall₂_same]
  exact fun b _ => .same b

/-- Inside fenced code that no quote or list is around. -/
def Outline.InCode (o : Outline) : Prop :=
  o.frames = [] ∧ ∃ f indent info content, o.leaf = .fenced f indent info content

/-- The outline with an open block in place of its own. -/
def Outline.withLeaf (o : Outline) (leaf : Leaf) : Outline := { o with leaf }

/-- Outlines that are the same but for code that no frame is around. -/
inductive Matches : Outline → Outline → Prop
  | same (q : Outline) {past past' : List Block} (h : List.Forall₂ SameBlock past past') :
    Matches (q.atop past) (q.atop past')
  | code {q : Outline} (hframes : q.frames = []) (f : Marker.Fence) (indent : Nat) (info : Text) {c c' : Text}
    (hcode : SameCode c c') {past past' : List Block} (h : List.Forall₂ SameBlock past past') :
    Matches ((q.withLeaf (.fenced f indent info c)).atop past) ((q.withLeaf (.fenced f indent info c')).atop past')

namespace Matches

theorem refl (o : Outline) : Matches o o := by
  have hsame : Matches (o.atop []) (o.atop []) := .same o .nil
  rwa [Outline.atop_nil] at hsame

theorem closeLeaf (h : Matches o o') : Matches o.closeLeaf o'.closeLeaf := by
  cases h with
  | same q h =>
    rw [Outline.closeLeaf_atop, Outline.closeLeaf_atop]
    exact .same q.closeLeaf h
  | @code q hframes f indent info c c' hcode past past' h =>
    obtain ⟨frames, blocks, leaf, definitions, lastBlank, emptyItem, task⟩ := q
    obtain rfl : frames = [] := hframes
    exact .same ⟨[], [], .none, definitions, lastBlank || false, emptyItem, task⟩
      (.cons (.code info hcode) (List.rel_append (forall₂_sameBlock_refl blocks) h))

/-- On the same text both readers take the same step. -/
theorem step {p : Outline} {r : Text} (h : Matches o o') (hstep : BlockReader.step opts o s = (p, r)) :
    ∃ p', BlockReader.step opts o' s = (p', r) ∧ Matches p p' := by
  cases h with
  | same q h =>
    rw [BlockReader.step_atop] at hstep ⊢
    obtain ⟨rfl, rfl⟩ := Prod.mk.inj hstep
    exact ⟨_, rfl, .same _ h⟩
  | @code q hframes f indent info c c' hcode past past' h =>
    have hclose := (Matches.code hframes f indent info hcode h).closeLeaf
    have hfenced : ∀ c past, BlockReader.step opts ((q.withLeaf (.fenced f indent info c)).atop past) s =
        BlockReader.continueFenced ((q.withLeaf (.fenced f indent info c)).atop past) f indent info c (.start s) :=
      fun c past =>
        BlockReader.step_fenced (o := (q.withLeaf (.fenced f indent info c)).atop past) hframes rfl s
    rw [hfenced, BlockReader.continueFenced] at hstep ⊢
    dsimp only at hstep ⊢
    split at hstep
    · obtain ⟨rfl, rfl⟩ := Prod.mk.inj hstep
      exact ⟨_, rfl, hclose⟩
    · obtain ⟨rfl, rfl⟩ := Prod.mk.inj hstep
      exact ⟨_, rfl, .code hframes f indent info ((hcode.append _).append _) h⟩

theorem run (h : Matches o o') (n : Nat) (s : Text) :
    Matches (BlockReader.run opts o n s) (BlockReader.run opts o' n s) := by
  induction s generalizing o o' n with
  | nil => exact h
  | cons c s ih =>
    cases n with
    | succ n => exact ih h n
    | zero =>
      obtain ⟨p', hstep, hmatches⟩ := h.step (show BlockReader.step opts o (c :: s) = (_, _) from rfl)
      rw [BlockReader.run, BlockReader.run, hstep]
      exact ih hmatches _

theorem definitions_eq (h : Matches o o') : o'.definitions = o.definitions := by
  cases h <;> rfl

theorem finish (h : Matches o o') : List.Forall₂ SameBlock o.finish o'.finish := by
  have hfold : ∀ (fs : List Frame) (q : Outline) (past : List Block),
      fs.foldl (fun o _ => o.closeTop) (q.atop past) = (fs.foldl (fun o _ => o.closeTop) q).atop past := by
    intro fs
    induction fs with
    | nil => exact fun _ _ => rfl
    | cons f fs ih =>
      intro q past
      rw [List.foldl_cons, List.foldl_cons, Outline.closeTop_atop, ih]
  have hclosed := h.closeLeaf
  have hleaf := o.leaf_closeLeaf
  rw [Outline.finish, Outline.finish]
  generalize o.closeLeaf = p at hclosed hleaf
  generalize o'.closeLeaf = p' at hclosed
  refine List.rel_reverse ?_
  cases hclosed with
  | same q h =>
    rw [hfold, hfold]
    exact List.rel_append (forall₂_sameBlock_refl _) h
  | code => cases hleaf

/-- A mark in the code of one reader where the other has a blank line. -/
theorem mark (opts : Options) (h : Matches o o') (hcode : o.InCode) (ho : BlockReader.Orderly o) (s s' : Text) : ∃ p p',
    BlockReader.step opts o (Source.blankMark ++ '\n' :: s) = (p, s) ∧
      BlockReader.step opts o' ('\n' :: s') = (p', s') ∧ Matches p p' ∧ BlockReader.Orderly p := by
  obtain ⟨hframes, f, indent, info, c, hleaf⟩ := hcode
  obtain ⟨hfence, hc⟩ := ho f indent info c hleaf
  have hlength : 0 < f.length := Nat.lt_of_lt_of_le (by decide) hfence.length
  have hlast : ∀ c : Text, (c ++ (Source.blankMark ++ ['\n'])).getLast? = some '\n' := by simp [List.getLast?_append]
  -- Both lines go to the code as they are.
  have hdot : ∀ (q : Outline) (past : List Block) (c : Text), q.frames = [] →
      BlockReader.step opts ((q.withLeaf (.fenced f indent info c)).atop past) (Source.blankMark ++ '\n' :: s) =
        ((q.withLeaf (.fenced f indent info (c ++ (Source.blankMark ++ ['\n'])))).atop past, s) := by
    intro q past c hq
    exact BlockReader.step_fenced_of_head (o := (q.withLeaf (.fenced f indent info c)).atop past) hq rfl (by decide)
      hlength (hfence.mark_ne (by decide)).symm ('\n' :: s)
  have hblank : ∀ (q : Outline) (past : List Block) (c : Text), q.frames = [] →
      BlockReader.step opts ((q.withLeaf (.fenced f indent info c)).atop past) ('\n' :: s') =
        ((q.withLeaf (.fenced f indent info (c ++ ['\n']))).atop past, s') := by
    intro q past c hq
    exact BlockReader.step_fenced_of_head (o := (q.withLeaf (.fenced f indent info c)).atop past) hq rfl (by decide)
      hlength (hfence.mark_ne (by decide)).symm s'
  cases h with
  | @same q past past' h =>
    have hq : ∀ past, q.atop past = (q.withLeaf (.fenced f indent info c)).atop past := by
      intro past
      rw [← hleaf]
      rfl
    rw [hq, hq, hdot q past c hframes, hblank q past' c hframes]
    exact ⟨_, _, rfl, rfl, .code (q := q) hframes f indent info ((SameCode.refl c).mark hc) h,
      BlockReader.orderly_of_leaf rfl hfence (hlast c)⟩
  | @code q hq f' indent' info' d d' hcode past past' h =>
    obtain ⟨rfl, rfl, rfl, rfl⟩ := Leaf.fenced.inj hleaf
    rw [hdot q past d hq, hblank q past' d' hq]
    exact ⟨_, _, rfl, rfl, .code hq f' indent' info' (hcode.mark hc) h,
      BlockReader.orderly_of_leaf rfl hfence (hlast d)⟩

end Matches
end Markweave.Markdown
