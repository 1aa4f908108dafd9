import Markweave.Proofs.Diagram.Placeholder
import Markweave.Proofs.Settings

namespace Markweave.Diagram

/-- The place of an item among all, ordered by pass first and by position second. -/
def rank (passes : List Nat) (pass position : Nat) : Nat :=
  passes.zipIdx.countP fun (q, k) => q < pass || (q == pass && k < position)

theorem countP_lex (p i : Nat) (zs : List (Nat × Nat)) :
    zs.countP (fun (q, k) => q < p || (q == p && k < i)) =
      zs.countP (fun (q, _) => q < p) + zs.countP (fun (q, k) => q == p && k < i) := by
  induction zs with
  | nil => rfl
  | cons z zs ih =>
    obtain ⟨q, k⟩ := z
    simp only [List.countP_cons, ih]
    by_cases hlt : q < p
    · have hne : q ≠ p := by omega
      simp [hlt, hne]
      omega
    · simp [hlt]
      omega

/-- Before an item stand all items of earlier passes and those of its own pass on its left. -/
theorem rank_append (xs : List Nat) (p : Nat) (ys : List Nat) :
    rank (xs ++ p :: ys) p xs.length = (xs ++ p :: ys).countP (· < p) + xs.countP (· == p) := by
  have hfst : ∀ k (l : List Nat), (l.zipIdx k).countP (fun (q, _) => q < p) = l.countP (· < p) := by
    intro k l
    have h := congrArg (List.countP (· < p)) (List.zipIdx_map_fst k l)
    rw [List.countP_map] at h
    exact h
  have hleft : (xs.zipIdx 0).countP (fun (q, k) => q == p && k < xs.length) = xs.countP (· == p) := by
    have h := congrArg (List.countP (· == p)) (List.zipIdx_map_fst 0 xs)
    rw [List.countP_map] at h
    rw [← h]
    apply List.countP_congr
    intro z hz
    have hk : z.2 < xs.length := by simpa using List.snd_lt_of_mem_zipIdx hz
    simp [hk]
  have hright : (ys.zipIdx (xs.length + 1)).countP (fun (q, k) => q == p && k < xs.length) = 0 := by
    apply List.countP_eq_zero.mpr
    intro z hz
    have hk := List.le_snd_of_mem_zipIdx hz
    simp only [Bool.and_eq_true, decide_eq_true_eq, not_and]
    intro _
    omega
  rw [rank, countP_lex, hfst]
  congr 1
  rw [List.zipIdx_append, List.countP_append, Nat.zero_add, List.zipIdx_cons, List.countP_cons, hleft, hright]
  simp

section

variable {ι : Type} (pass : ι → Nat)

theorem countP_pass_zipIdx (items : List ι) (m : Nat) :
    items.zipIdx.countP (fun x => pass x.1 == m) = items.countP (pass · == m) := by
  have h := congrArg (List.countP (pass · == m)) (List.zipIdx_map_fst 0 items)
  rw [List.countP_map] at h
  exact h

theorem countP_pass_succ (items : List ι) (m : Nat) :
    items.countP (pass · < m) + items.countP (pass · == m) = items.countP (pass · < m + 1) := by
  induction items with
  | nil => rfl
  | cons i items ih =>
    simp only [List.countP_cons, decide_eq_true_eq, beq_iff_eq]
    rw [← ih]
    split <;> split <;> split <;> omega

/-- The rank of an item of a list, from what stands before it. -/
theorem rank_of_zipIdx {items : List ι} {xs ys : List (ι × Nat)} {x : ι × Nat}
    (h : items.zipIdx = xs ++ x :: ys) :
    rank (items.map pass) (pass x.1) x.2 =
      items.countP (pass · < pass x.1) + xs.countP (fun y => pass y.1 == pass x.1) := by
  have hitems : items = xs.map Prod.fst ++ x.1 :: ys.map Prod.fst := by
    rw [← List.zipIdx_map_fst 0 items, h, List.map_append, List.map_cons]
  have hplace : x.2 = ((xs.map Prod.fst).map pass).length := by
    have hx := List.getElem?_zipIdx (l := items) (i := 0) (j := xs.length)
    rw [h, List.getElem?_append_right (Nat.le_refl _), Nat.sub_self, List.getElem?_cons_zero] at hx
    obtain ⟨i, hi, he⟩ := Option.map_eq_some_iff.mp hx.symm
    rw [← he]
    simp
  rw [hplace, hitems, List.map_append, List.map_cons, rank_append]
  simp [List.countP_map, Function.comp_def]

end

/-- No opening tag of code starts in the text, whatever follows. -/
def OpensNoCode (marker t : Text) : Prop :=
  t.AtTags fun v => ∀ s, Text.dropStart? (openingTag marker) ('<' :: (v ++ s)) = none

/-- What a text may hold in between: code, or a tag that opens no code. -/
inductive Item
  | code (b : CodeBlock)
  | tag (t : Text)

namespace Item

/-- No pass of the extraction takes a tag. -/
def pass : Item → Nat
  | code b => b.pass
  | tag _ => DiagramKind.all.length + 1

def isCode : Item → Bool
  | code _ => true
  | tag _ => false

def write (marker : Text) : Item → Text
  | code b => b.write marker
  | tag t => t

/-- An item when the passes before pass `m` have run. -/
def shown (stylePrefix : Text) (m : Nat) (id : UInt64) : Item → Text
  | code b => if b.pass < m then b.placeholder stylePrefix id else b.write (stylePrefix ++ "md-code")
  | tag t => t

/-- An item when all passes have run. -/
def placed (stylePrefix : Text) (id : UInt64) : Item → Text
  | code b => b.placeholder stylePrefix id
  | tag t => t

/-- Code is sound, and a tag is one that opens no code. -/
def Fits (marker : Text) : Item → Prop
  | code b => b.Sound
  | tag t => t.head? = some '<' ∧ OpensNoCode marker t

end Item

theorem CodeBlock.pass_le (b : CodeBlock) : b.pass ≤ DiagramKind.all.length := List.findIdx_le_length

/-- Two kinds have two words. -/
theorem CodeBlock.pass_eq_iff {k : DiagramKind} {m : Nat} (hk : DiagramKind.all[m]? = some k)
    (b : CodeBlock) : b.pass = m ↔ k.tag = b.word := by
  have htags : DiagramKind.all.Pairwise fun j k => j.tag ≠ k.tag := by decide
  obtain ⟨hm, rfl⟩ := List.getElem?_eq_some_iff.mp hk
  rw [CodeBlock.pass, List.findIdx_eq hm]
  constructor
  · intro h
    simpa using h.1
  · intro h
    refine ⟨by simpa using h, ?_⟩
    intro j hj
    have hne := List.pairwise_iff_getElem.mp htags j m (by omega) hm hj
    rw [h] at hne
    simpa using hne

variable {stylePrefix : Text}

theorem notMem_of_isPrefixChar (hstyle : stylePrefix.all Settings.isPrefixChar = true) : '<' ∉ stylePrefix :=
  Settings.notMem_stylePrefix hstyle (by decide)

theorem notMem_marker (hstyle : '<' ∉ stylePrefix) : '<' ∉ stylePrefix ++ "md-code" := by
  intro h
  rcases List.mem_append.mp h with hp | hm
  · exact hstyle hp
  · exact absurd hm (by decide)

namespace OpensNoCode

variable {marker : Text}

/-- A tag opens no code when it does not begin as the tag of code does. -/
theorem tag {t : Text} (ht : '<' ∉ t)
    (hs : ∀ s, Text.dropStart? (openingTag marker) ('<' :: (t ++ s)) = none) :
    OpensNoCode marker ('<' :: t) := Text.AtTags.tag ht hs

theorem quiet {p : Pattern Text} {takes : CodeBlock → Bool} (hp : IsPass marker p takes) {t : Text}
    (h : OpensNoCode marker t) : p.Quiet t := by
  intro u c v he s
  by_cases hc : c = '<'
  · subst hc
    exact hp.read?_eq_none_of_dropStart? (h u v he s)
  · exact hp.findsTags.read?_eq_none hc _

end OpensNoCode

/-- What a finished placeholder holds is taken by no later pass. -/
theorem opensNoCode_placeholder {marker : Text} (hstyle : '<' ∉ stylePrefix) {b : CodeBlock}
    (hb : b.Sound) (id : UInt64) : OpensNoCode marker (b.placeholder stylePrefix id) := by
  refine b.atTags_placeholder ?_ ?_ hstyle (fun hc => (hb.body _ hc).1 rfl) id
  · intro v s hv r
    rw [List.append_assoc]
    exact hv (s ++ r)
  · intro t ht s
    simp only [placeholderTags, List.map_cons, List.map_nil, List.mem_cons, List.not_mem_nil, or_false] at ht
    rcases ht with rfl | rfl | rfl | rfl | rfl | rfl
    all_goals rfl

/-- The number of an item when the first one drawn is `n`. -/
def numbered (l : Interleaved Item) (n : UInt64) (x : Item × Nat) : UInt64 :=
  n + .ofNat (rank (l.items.map Item.pass) x.1.pass x.2)

/-- The text and the counter when the passes before pass `m` have run. -/
def stage (stylePrefix : Text) (n : UInt64) (l : Interleaved Item) (m : Nat) : Text × IdCounter :=
  (l.indexed.write fun x => x.1.shown stylePrefix m (numbered l n x),
    ⟨n + .ofNat (l.items.countP (·.pass < m))⟩)

section

variable {n : UInt64} {l : Interleaved Item} {m : Nat} {p : Pattern Text} {takes : CodeBlock → Bool}
  {write : UInt64 → Text → Text}

theorem treats_item (hp : IsPass (stylePrefix ++ "md-code") p takes) (hstyle : '<' ∉ stylePrefix)
    (hm : m ≤ DiagramKind.all.length)
    (htakes : ∀ b : CodeBlock, m ≤ b.pass → (takes b = true ↔ b.pass = m))
    (hwrite : ∀ (b : CodeBlock) id, b.pass = m → write id b.body = b.placeholder stylePrefix id)
    (x : Item × Nat) (hx : x.1.Fits (stylePrefix ++ "md-code")) :
    p.Treats write (fun x => x.1.shown stylePrefix m (numbered l n x))
      (fun x => x.1.shown stylePrefix (m + 1) (numbered l n x)) (numbered l n)
      (fun x => x.1.pass == m) x := by
  have hmarker := notMem_marker hstyle
  obtain ⟨i, k⟩ := x
  cases i with
  | tag t =>
    have hpass : DiagramKind.all.length + 1 ≠ m := by omega
    refine ⟨hx.1, ?_, fun _ => ⟨hx.2.quiet hp, rfl⟩⟩
    intro hfinds
    exact absurd (by simpa [Item.pass] using hfinds) hpass
  | code b =>
    refine ⟨?_, ?_, ?_⟩
    · simp only [Item.shown]
      split
      · exact b.head?_placeholder _
      · rfl
    · intro hfinds
      have hpass : b.pass = m := by simpa [Item.pass] using hfinds
      refine ⟨b.body, ?_, ?_⟩
      · intro s
        rw [Item.shown, if_neg (by omega)]
        exact hp.read?_block hx ((htakes b (by omega)).mpr hpass) s
      · rw [Item.shown, if_pos (by omega)]
        exact hwrite b _ hpass
    · intro hfinds
      have hpass : b.pass ≠ m := by simpa [Item.pass] using hfinds
      simp only [Item.shown]
      by_cases hlt : b.pass < m
      · rw [if_pos hlt, if_pos (by omega)]
        exact ⟨(opensNoCode_placeholder hstyle hx _).quiet hp, rfl⟩
      · rw [if_neg hlt, if_neg (by omega)]
        refine ⟨hp.quiet_block hmarker hx ?_, rfl⟩
        have hnot : ¬ takes b = true := fun h => hpass ((htakes b (by omega)).mp h)
        simpa using hnot

/-- One pass: the items of its kind are written, all others are left to the passes behind it. -/
theorem renumber_stage (hp : IsPass (stylePrefix ++ "md-code") p takes) (hstyle : '<' ∉ stylePrefix)
    (hm : m ≤ DiagramKind.all.length)
    (htakes : ∀ b : CodeBlock, m ≤ b.pass → (takes b = true ↔ b.pass = m))
    (hwrite : ∀ (b : CodeBlock) id, b.pass = m → write id b.body = b.placeholder stylePrefix id)
    (hgaps : ∀ g ∈ l.gaps, HoldsCodeInline (stylePrefix ++ "md-code") g)
    (hitems : ∀ i ∈ l.items, i.Fits (stylePrefix ++ "md-code")) :
    p.renumber write (stage stylePrefix n l m).2 (stage stylePrefix n l m).1 =
      stage stylePrefix n l (m + 1) := by
  have hmarker := notMem_marker hstyle
  have hgaps' : ∀ g ∈ l.indexed.gaps, p.QuietGap g := by
    intro g hg
    rw [Interleaved.gaps_indexed] at hg
    exact hp.quietGap hmarker (hgaps g hg)
  have hitems' : ∀ x ∈ l.indexed.items, x.1.Fits (stylePrefix ++ "md-code") := by
    intro x hx
    rw [Interleaved.items_indexed] at hx
    exact hitems x.1 (List.fst_mem_of_mem_zipIdx hx)
  have hnumber : ∀ xs x ys, l.indexed.items = xs ++ x :: ys → (x.1.pass == m) = true →
      numbered l n x = n + UInt64.ofNat (l.items.countP (·.pass < m)) +
        UInt64.ofNat (xs.countP fun x => x.1.pass == m) := by
    intro xs x ys he hx
    rw [Interleaved.items_indexed] at he
    have hpass : x.1.pass = m := by simpa using hx
    rw [numbered, rank_of_zipIdx Item.pass he, hpass, UInt64.ofNat_add, ← UInt64.add_assoc]
  have hall := Pattern.renumber_interleaved p write (n + UInt64.ofNat (l.items.countP (·.pass < m))) hgaps'
    (fun x hx => treats_item (n := n) (l := l) hp hstyle hm htakes hwrite x (hitems' x hx)) hnumber
  rw [stage, hall, stage]
  congr 2
  rw [UInt64.add_assoc, ← UInt64.ofNat_add, Interleaved.items_indexed,
    countP_pass_zipIdx Item.pass, countP_pass_succ]

theorem stage_zero :
    stage stylePrefix n l 0 = (l.write (·.write (stylePrefix ++ "md-code")), ⟨n⟩) := by
  have hshown : ∀ x : Item × Nat, x.1.shown stylePrefix 0 (numbered l n x) =
      x.1.write (stylePrefix ++ "md-code") := by
    intro x
    cases h : x.1 with
    | code b => rfl
    | tag t => rfl
  have hcount : l.items.countP (·.pass < 0) = 0 := by simp
  have hwrite := l.write_indexed (Item.write (stylePrefix ++ "md-code"))
  rw [stage, hcount, ← hwrite, funext hshown]
  congr 2
  exact UInt64.add_zero n

theorem stage_last :
    stage stylePrefix n l (DiagramKind.all.length + 1) =
      (l.indexed.write fun x => x.1.placed stylePrefix (numbered l n x),
        ⟨n + .ofNat (l.items.countP Item.isCode)⟩) := by
  have hshown : ∀ (i : Item) id, i.shown stylePrefix (DiagramKind.all.length + 1) id =
      i.placed stylePrefix id := by
    intro i id
    cases i with
    | code b => exact if_pos (Nat.lt_succ_of_le b.pass_le)
    | tag t => rfl
  have hcount : ∀ i : Item, decide (i.pass < DiagramKind.all.length + 1) = i.isCode := by
    intro i
    cases i with
    | code b => simp [Item.pass, Item.isCode, Nat.lt_succ_of_le b.pass_le]
    | tag t => simp [Item.pass, Item.isCode]
  simp only [stage, hshown, hcount]

theorem foldl_extractKind (hstyle : '<' ∉ stylePrefix)
    (hgaps : ∀ g ∈ l.gaps, HoldsCodeInline (stylePrefix ++ "md-code") g)
    (hitems : ∀ i ∈ l.items, i.Fits (stylePrefix ++ "md-code")) (hm : m ≤ DiagramKind.all.length) :
    (DiagramKind.all.take m).foldl (extractKind (stylePrefix ++ "md-code")) (stage stylePrefix n l 0) =
      stage stylePrefix n l m := by
  induction m with
  | zero => rfl
  | succ m ih =>
    have hk : DiagramKind.all[m]? = some DiagramKind.all[m] := List.getElem?_eq_getElem hm
    rw [List.take_add_one, List.foldl_append, ih (by omega), hk]
    apply renumber_stage (tagged_isPass _ (List.mem_of_getElem? hk)) hstyle (by omega) _ _ hgaps hitems
    · intro b _
      rw [b.pass_eq_iff hk, beq_iff_eq]
    · intro b id hpass
      rw [CodeBlock.placeholder, hpass, hk]

/-- The extraction of code and tags in one pass from left to right. -/
theorem extract_items (hstyle : '<' ∉ stylePrefix)
    (hgaps : ∀ g ∈ l.gaps, HoldsCodeInline (stylePrefix ++ "md-code") g)
    (hitems : ∀ i ∈ l.items, i.Fits (stylePrefix ++ "md-code")) :
    extract stylePrefix ⟨n⟩ (l.write (·.write (stylePrefix ++ "md-code"))) =
      (l.indexed.write fun x => x.1.placed stylePrefix (numbered l n x),
        ⟨n + .ofNat (l.items.countP Item.isCode)⟩) := by
  have hkinds := foldl_extractKind (n := n) hstyle hgaps hitems (Nat.le_refl _)
  rw [List.take_length, stage_zero] at hkinds
  rw [extract, hkinds, ← stage_last]
  apply renumber_stage (untagged_isPass _) hstyle (Nat.le_refl _) _ _ hgaps hitems
  · intro b hle
    simp [Nat.le_antisymm b.pass_le hle]
  · intro b id hpass
    rw [CodeBlock.placeholder, hpass]
    rfl

end

/-- The passes do what one pass from left to right does: a gap stays, a block becomes the placeholder of
its kind, and its number counts the blocks of earlier passes and those of its own pass on its left. -/
theorem extract_blocks (hstyle : stylePrefix.all Settings.isPrefixChar = true) (n : UInt64)
    (html : Interleaved CodeBlock)
    (hgaps : ∀ g ∈ html.gaps, HoldsCodeInline (stylePrefix ++ "md-code") g)
    (hblocks : ∀ b ∈ html.items, b.Sound) :
    extract stylePrefix ⟨n⟩ (html.write (·.write (stylePrefix ++ "md-code"))) =
      (html.indexed.write fun (b, i) =>
          b.placeholder stylePrefix (n + .ofNat (rank (html.items.map CodeBlock.pass) b.pass i)),
        ⟨n + .ofNat html.items.length⟩) := by
  have hitems : ∀ i ∈ (html.map Item.code).items, i.Fits (stylePrefix ++ "md-code") := by
    intro i hi
    rw [Interleaved.items_map] at hi
    obtain ⟨b, hb, rfl⟩ := List.mem_map.mp hi
    exact hblocks b hb
  have h := extract_items (n := n) (notMem_of_isPrefixChar hstyle) (by rwa [Interleaved.gaps_map]) hitems
  have hpasses : (html.map Item.code).items.map Item.pass = html.items.map CodeBlock.pass := by
    rw [Interleaved.items_map, List.map_map]
    rfl
  have hcount : (html.map Item.code).items.countP Item.isCode = html.items.length := by
    rw [Interleaved.items_map, List.countP_map]
    exact congrFun List.countP_true _
  rw [Interleaved.write_map, Interleaved.indexed_map, Interleaved.write_map, hcount] at h
  simp only [numbered, hpasses] at h
  exact h

theorem extract_blocks_mermaid_behind_rust :
    extract "jsh-" ⟨5⟩ ("a<code class=\"jsh-md-code\">rust\nb</code>" ++
        "c<code class=\"jsh-md-code\">mermaid\nd</code>" : Text) =
      (("a<pre><code id=\"inlineCode6\" class=\"jsh-code txt\">b</code></pre>" ++
        "c<div id=\"inlineMermaid5\" class=\"mermaid\">d</div>" : Text), ⟨7⟩) := by
  have hgaps : ∀ g ∈ ["a".toList, "c".toList, []], '<' ∉ g := by decide
  have hblocks : ∀ b ∈ [CodeBlock.mk "rust" "b", CodeBlock.mk "mermaid" "d"], b.Sound := by
    intro b hb
    simp only [List.mem_cons, List.not_mem_nil, or_false] at hb
    rcases hb with rfl | rfl
    · exact ⟨by simp, by simp [isBodyChar]⟩
    · exact ⟨by simp, by simp [isBodyChar]⟩
  have hhtml : ("a<code class=\"jsh-md-code\">rust\nb</code>" ++
      "c<code class=\"jsh-md-code\">mermaid\nd</code>" : Text) =
      Interleaved.write (CodeBlock.write ("jsh-" ++ "md-code"))
        ⟨"a", [(⟨"rust", "b"⟩, "c"), (⟨"mermaid", "d"⟩, [])]⟩ := by
    decide +kernel
  rw [hhtml]
  refine (extract_blocks (by decide) 5 _ ?_ ?_).trans ?_
  · intro g hg
    exact HoldsCodeInline.of_notMem (hgaps g hg)
  · exact hblocks
  · decide +kernel

end Markweave.Diagram
