import Markweave.Proofs.HeadingTag
import Markweave.Proofs.Rendering.Marked

namespace Markweave

open Marked (plain)

namespace Pattern

variable {α : Type} {p : Pattern α} {write : UInt64 → α → Text} {owns : IdOwner → Prop}

/-- How a pass sees HTML with slots: as nothing to find, or as a find that becomes one slot and keeps those
inside, whatever the numbers are. -/
def Sees (p : Pattern α) (write : UInt64 → α → Text) (owns : IdOwner → Prop) (m : Marked) : Prop :=
  (∀ first, p.read? (m.fill first) = none) ∨
    ∃ (before : Text) (o : IdOwner) (after rest : Marked),
      owns o ∧ m.slots = after.slots ++ rest.slots ∧ rest.length < m.length ∧
        ∀ first, ∃ a, p.read? (m.fill first) = some (a, rest.fill first) ∧
          ∀ id, write id a = before ++ '<' :: o.tagStart id ++ after.fill first

/-- The slots of owners that receive numbers one after the other. -/
def drawn (k : Nat) (owners : List IdOwner) : List Slot := (owners.zipIdx k).map fun (o, i) => ⟨o, i⟩

theorem drawn_cons (k : Nat) (o : IdOwner) (owners : List IdOwner) :
    drawn k (o :: owners) = ⟨o, k⟩ :: drawn (k + 1) owners := rfl

/-- A pass over HTML with slots, by induction from left to right: the slots stay, and the numbers drawn stand
in new ones. -/
theorem renumber_fill (kept : Slot → Prop) (hquiet : ∀ s, kept s → ∀ first, p.Quiet (s.write first))
    (hsees : ∀ m : Marked, (∀ s ∈ m.slots, kept s) → p.Sees write owns m) (m : Marked)
    (hm : ∀ s ∈ m.slots, kept s) (k : Nat) :
    ∃ (m' : Marked) (owners : List IdOwner), (∀ o ∈ owners, owns o) ∧
      m'.slots.Perm (m.slots ++ drawn k owners) ∧
      ∀ first, p.renumber write ⟨first + .ofNat k⟩ (m.fill first) =
        (m'.fill first, ⟨first + .ofNat (k + owners.length)⟩) := by
  rcases hsees m hm with hnone | ⟨before, o, after, rest, ho, hslots, hlength, hread⟩
  · match m with
    | [] =>
      refine ⟨[], [], fun o ho => absurd ho List.not_mem_nil, .refl _, ?_⟩
      intro first
      exact p.renumber_nil write _
    | .inl c :: m =>
      obtain ⟨m', owners, howners, hperm, hpass⟩ := renumber_fill kept hquiet hsees m hm k
      refine ⟨.inl c :: m', owners, howners, hperm, ?_⟩
      intro first
      have hfirst := hnone first
      rw [Marked.fill_char] at hfirst ⊢
      rw [p.renumber_cons write _ hfirst, hpass, Marked.fill_char]
    | .inr s :: m =>
      rw [Marked.slots_slot, List.forall_mem_cons] at hm
      obtain ⟨m', owners, howners, hperm, hpass⟩ := renumber_fill kept hquiet hsees m hm.2 k
      refine ⟨.inr s :: m', owners, howners, hperm.cons s, ?_⟩
      intro first
      rw [Marked.fill_slot, p.renumber_quiet write (hquiet s hm.1 first), hpass, Marked.fill_slot]
  · have hrest : ∀ s ∈ rest.slots, kept s := fun s hs => hm s (by rw [hslots]; exact List.mem_append_right _ hs)
    obtain ⟨m', owners, howners, hperm, hpass⟩ := renumber_fill kept hquiet hsees rest hrest (k + 1)
    refine ⟨plain before ++ .inr ⟨o, k⟩ :: (after ++ m'), o :: owners,
      List.forall_mem_cons.mpr ⟨ho, howners⟩, ?_, ?_⟩
    · rw [Marked.slots_append, Marked.slots_plain, List.nil_append, Marked.slots_slot, Marked.slots_append,
        hslots, drawn_cons]
      refine ((hperm.append_left after.slots).cons _).trans ?_
      rw [← List.append_assoc]
      exact List.perm_middle.symm
    · intro first
      obtain ⟨a, hfind, hwrite⟩ := hread first
      have hnext : first + .ofNat k + 1 = first + .ofNat (k + 1) := by
        rw [UInt64.ofNat_add, ← UInt64.add_assoc]
        rfl
      rw [p.renumber_of_read? write _ hfind, hwrite]
      dsimp only
      rw [hnext, hpass, List.length_cons, Nat.add_right_comm k 1, Nat.add_assoc k]
      simp [Slot.write, Slot.number]
termination_by m.length
decreasing_by
  · simp
  · simp
  · exact hlength

end Pattern

namespace Diagram

/-- The reader drops plain text from the beginning, whatever the numbers are. -/
def Settled (f : Text → Option Text) : Prop :=
  ∀ m : Marked, (∀ first, f (m.fill first) = none) ∨
    ∃ t rest, m = plain t ++ rest ∧ ∀ first, f (m.fill first) = some (rest.fill first)

theorem Settled.bind {f g : Text → Option Text} (hf : Settled f) (hg : Settled g) :
    Settled fun s => (f s).bind g := by
  intro m
  rcases hf m with hnone | ⟨t, rest, rfl, hread⟩
  · left
    intro first
    dsimp only
    rw [hnone, Option.bind_none]
  · rcases hg rest with hnone | ⟨t', rest, rfl, hread'⟩
    · left
      intro first
      dsimp only
      rw [hread, Option.bind_some, hnone]
    · refine .inr ⟨t ++ t', rest, by simp [plain], ?_⟩
      intro first
      dsimp only
      rw [hread, Option.bind_some, hread']

/-- The beginning of a text is dropped or missing for all numbers alike. -/
theorem settled_of_plain {needle : Text} (h : ∀ m : Marked,
    (∀ first, Text.dropStart? needle (m.fill first) = none) ∨ ∃ rest, m = plain needle ++ rest) :
    Settled (Text.dropStart? needle) := by
  intro m
  rcases h m with hnone | ⟨rest, rfl⟩
  · exact .inl hnone
  · refine .inr ⟨needle, rest, rfl, ?_⟩
    intro first
    rw [Marked.fill_append, Marked.fill_plain, Text.dropStart?_append]

theorem dropStart?_openingTag_write (marker : Text) (first : UInt64) (s : Slot) (r : Text) :
    Text.dropStart? (openingTag marker) (s.write first ++ r) = none := by
  obtain ⟨o, offset⟩ := s
  cases o with
  | diagram kind hk => rfl
  | code => rfl
  | heading digit hd => rfl

theorem settled_openingTag {marker : Text} (hm : '<' ∉ marker) :
    Settled (Text.dropStart? (openingTag marker)) := by
  apply settled_of_plain
  intro m
  apply Marked.dropStart?_fill (notMem_tail_openingTag hm)
  exact fun s _ first r => dropStart?_openingTag_write marker first s r

theorem settled_skipInfo : Settled skipInfo? := by
  intro m
  induction m with
  | nil => exact .inl fun first => rfl
  | cons x m ih =>
    cases x with
    | inr s => exact .inl fun first => rfl
    | inl c =>
      by_cases hline : c = '\n'
      · subst hline
        exact .inr ⟨['\n'], m, rfl, fun first => rfl⟩
      by_cases hlt : c = '<'
      · subst hlt
        exact .inl fun first => rfl
      have hskip : ∀ s, skipInfo? (c :: s) = skipInfo? s := by
        intro s
        exact skipInfo?_append (show ∀ d ∈ [c], d ≠ '\n' ∧ d ≠ '<' by simp [hline, hlt]) s
      rcases ih with hnone | ⟨t, rest, rfl, hread⟩
      · left
        intro first
        rw [Marked.fill_char, hskip, hnone]
      · refine .inr ⟨c :: t, rest, rfl, ?_⟩
        intro first
        rw [Marked.fill_char, hskip, hread]

/-- What follows the tag of a kind. -/
def skipRest? : Text → Option Text
  | '\n' :: rest => some rest
  | ' ' :: rest => skipInfo? rest
  | '\t' :: rest => skipInfo? rest
  | _ => none

theorem settled_skipRest : Settled skipRest? := by
  intro m
  have hinfo : ∀ (c : Char) (m : Marked), (∀ s, skipRest? (c :: s) = skipInfo? s) →
      (∀ first, skipRest? (c :: m.fill first) = none) ∨ ∃ t rest, .inl c :: m = plain t ++ rest ∧
        ∀ first, skipRest? (c :: m.fill first) = some (Marked.fill first rest) := by
    intro c m hc
    rcases settled_skipInfo m with hnone | ⟨t, rest, rfl, hread⟩
    · exact .inl fun first => (hc _).trans (hnone first)
    · exact .inr ⟨c :: t, rest, rfl, fun first => (hc _).trans (hread first)⟩
  match m with
  | [] => exact .inl fun first => rfl
  | .inr s :: m => exact .inl fun first => rfl
  | .inl c :: m =>
    by_cases hline : c = '\n'
    · subst hline
      exact .inr ⟨['\n'], m, rfl, fun first => rfl⟩
    by_cases hblank : c = ' '
    · subst hblank
      exact hinfo ' ' m fun s => rfl
    by_cases htab : c = '\t'
    · subst htab
      exact hinfo '\t' m fun s => rfl
    left
    intro first
    rw [Marked.fill_char, skipRest?]
    · exact fun r h => hline (List.cons.inj h).1
    · exact fun r h => hblank (List.cons.inj h).1
    · exact fun r h => htab (List.cons.inj h).1

theorem skipTagged?_eq (k : DiagramKind) (s : Text) :
    skipTagged? k s = (Text.dropStart? k.tag s).bind skipRest? := by
  unfold skipTagged? skipRest?
  cases Text.dropStart? k.tag s with
  | none => rfl
  | some rest =>
    dsimp only [Option.bind_some]
    split <;> simp_all

theorem settled_skipTagged {k : DiagramKind} (hk : k ∈ DiagramKind.all) : Settled (skipTagged? k) := by
  have htags : ∀ k ∈ DiagramKind.all, '<' ∉ k.tag := by decide
  have htag : Settled (Text.dropStart? k.tag) :=
    settled_of_plain fun m => Marked.dropStart?_fill_of_notMem (htags k hk) m
  rw [show skipTagged? k = fun s => (Text.dropStart? k.tag s).bind skipRest? from funext (skipTagged?_eq k)]
  exact htag.bind settled_skipRest

theorem isBodyChar_write (first : UInt64) (s : Slot) : ∀ c ∈ s.write first, isBodyChar c = true := by
  intro c hc
  rcases List.mem_cons.mp hc with rfl | hc
  · decide
  · have hstart := IdOwner.isStartChar_of_mem_tagStart hc
    simp only [IdOwner.isStartChar, Bool.or_eq_true, beq_iff_eq] at hstart
    rcases hstart with (((halnum | rfl) | rfl) | rfl) | rfl
    · have hascii := Html.range_of_isAlphanum halnum
      have hrange : 32 ≤ c.toNat ∧ c.toNat ≠ 127 := by omega
      simp [isBodyChar, hrange]
    · decide
    · decide
    · decide
    · decide

/-- Slots are fit for a body wherever they stand. -/
theorem all_isBodyChar_fill (first : UInt64) (m : Marked) :
    (m.fill first).all isBodyChar = m.all (Sum.elim isBodyChar fun _ => true) := by
  induction m with
  | nil => rfl
  | cons x m ih =>
    cases x with
    | inl c => simp [ih]
    | inr s =>
      have hslot : (s.write first).all isBodyChar = true := List.all_eq_true.mpr (isBodyChar_write first s)
      simp [ih, hslot]

theorem readBody?_fill (m : Marked) :
    (∀ first, readBody? (m.fill first) = none) ∨
      ∃ body rest, m = body ++ plain "</code>" ++ rest ∧
        ∀ first, readBody? (m.fill first) = some (body.fill first, rest.fill first) := by
  have hcut := Marked.cut?_fill (m := m) (c := '<') (p := "/code>") (by decide)
    fun s _ first => Marked.absent_closing first s
  rcases hcut with hnone | ⟨body, rest, hm, hcut⟩
  · left
    intro first
    have hfirst : Text.cut? "</code>" (m.fill first) = none := hnone first
    rw [readBody?, hfirst]
    rfl
  · have hread : ∀ first, readBody? (m.fill first) =
        (some (body.fill first, rest.fill first)).filter
          fun _ => body.all (Sum.elim isBodyChar fun _ => true) := by
      intro first
      have hfirst : Text.cut? "</code>" (m.fill first) = some (body.fill first, rest.fill first) := hcut first
      rw [readBody?, hfirst, ← all_isBodyChar_fill first body]
      rfl
    cases hall : body.all (Sum.elim isBodyChar fun _ => true) with
    | false =>
      left
      intro first
      rw [hread, hall]
      rfl
    | true =>
      refine .inr ⟨body, rest, hm, ?_⟩
      intro first
      rw [hread, hall]
      rfl

variable {marker : Text} {skip? : Text → Option Text}

/-- Code is read from HTML with slots as a body with the slots in it. -/
theorem readCode?_fill (hm : '<' ∉ marker) (hskip : Settled skip?) (m : Marked) :
    (∀ first, readCode? marker skip? (m.fill first) = none) ∨
      ∃ body rest : Marked, m.slots = body.slots ++ rest.slots ∧ rest.length < m.length ∧
        ∀ first, readCode? marker skip? (m.fill first) = some (body.fill first, rest.fill first) := by
  have hread : ∀ s, readCode? marker skip? s =
      ((fun s => (Text.dropStart? (openingTag marker) s).bind skip?) s).bind readBody? := by
    intro s
    rw [readCode?, Option.bind_assoc]
  rcases (settled_openingTag hm).bind hskip m with hnone | ⟨t, text, rfl, hhead⟩
  · left
    intro first
    rw [hread, hnone first]
    rfl
  · rcases readBody?_fill text with hnone | ⟨body, rest, rfl, hbody⟩
    · left
      intro first
      rw [hread, hhead first, Option.bind_some, hnone]
    · refine .inr ⟨body, rest, by simp, by simp [plain]; omega, ?_⟩
      intro first
      rw [hread, hhead first, Option.bind_some, hbody]

theorem quiet_write {p : Pattern Text} (hp : p.read? = readCode? marker skip?) (first : UInt64) (s : Slot) :
    p.Quiet (s.write first) := by
  have hfinds : p.FindsTags := by
    intro s a r h
    rw [hp] at h
    exact head?_of_readCode? h
  apply hfinds.quiet_tag (IdOwner.notMem_tagStart (by decide) s.owner _)
  intro r
  have hopen := dropStart?_openingTag_write marker first s r
  rw [Slot.write, List.cons_append] at hopen
  rw [hp, readCode?, hopen]
  rfl

theorem sees_tagged (hm : '<' ∉ marker) {k : DiagramKind} (hk : k ∈ DiagramKind.all) (m : Marked) :
    (tagged marker k).Sees k.placeholder (·.isHeading = false) m := by
  rcases readCode?_fill hm (settled_skipTagged hk) m with hnone | ⟨body, rest, hslots, hlength, hread⟩
  · exact .inl hnone
  · refine .inr ⟨[], .diagram k hk, plain (kindClass k ++ ['>']) ++ body ++ plain "</div>", rest, rfl,
      by simp [hslots], hlength, ?_⟩
    intro first
    refine ⟨body.fill first, hread first, ?_⟩
    intro id
    rw [Marked.fill_between, kindPlaceholder_eq hk]
    simp

theorem sees_untagged (hm : '<' ∉ marker) (stylePrefix : Text) (m : Marked) :
    (untagged marker).Sees (codePlaceholder stylePrefix) (·.isHeading = false) m := by
  rcases readCode?_fill hm settled_skipInfo m with hnone | ⟨body, rest, hslots, hlength, hread⟩
  · exact .inl hnone
  · refine .inr ⟨"<pre>", .code, plain (codeClass stylePrefix ++ ['>']) ++ body ++ plain "</code></pre>", rest,
      rfl, by simp [hslots], hlength, ?_⟩
    intro first
    refine ⟨body.fill first, hread first, ?_⟩
    intro id
    rw [Marked.fill_between, codePlaceholder_eq]
    simp

end Diagram

namespace HeadingIds

theorem readAttributes?_fill (m : Marked) :
    (∀ first, readAttributes? (m.fill first) = none) ∨
      ∃ inside rest : Marked, m = inside ++ .inl '>' :: rest ∧
        ∀ first, readAttributes? (m.fill first) = some (inside.fill first, rest.fill first) := by
  cases m with
  | nil => exact .inl fun first => rfl
  | cons x m =>
    cases x with
    | inr s =>
      left
      intro first
      have hblank : Unicode.isBlank '<' = false := by decide
      rw [Marked.fill_slot, Slot.write, List.cons_append, readAttributes?, hblank]
      · rfl
      · decide
    | inl c =>
      by_cases hclose : c = '>'
      · subst hclose
        exact .inr ⟨[], m, rfl, fun first => rfl⟩
      by_cases hblank : Unicode.isBlank c = true
      · have hcut := Marked.cut?_fill (m := m) (c := '>') (p := []) List.not_mem_nil
          fun s _ first => Marked.absent_of_notMem (Marked.notMem_write (by decide) (by decide) first s)
        rcases hcut with hnone | ⟨inside, rest, rfl, hcut⟩
        · left
          intro first
          have hfirst : Text.cut? ">" (Marked.fill first m) = none := hnone first
          rw [Marked.fill_char, readAttributes?, if_pos hblank, hfirst]
          · rfl
          · exact hclose
        · refine .inr ⟨.inl c :: inside, rest, by simp [plain], ?_⟩
          intro first
          have hfirst : Text.cut? ">" (Marked.fill first (inside ++ plain ['>'] ++ rest)) =
              some (inside.fill first, rest.fill first) := hcut first
          rw [Marked.fill_char, readAttributes?, if_pos hblank, hfirst]
          · rfl
          · exact hclose
      · left
        intro first
        rw [Marked.fill_char, readAttributes?, if_neg hblank]
        exact hclose

/-- What follows the beginning of a heading tag. -/
def readRest? : Text → Option (HeadingTag × Text)
  | d :: rest =>
    if isHeadingDigit d then (readAttributes? rest).map fun (inside, rest) => (⟨d, inside⟩, rest) else none
  | [] => none

theorem readTag?_eq (s : Text) : readTag? s = (Text.dropStart? "<h" s).bind readRest? := by
  unfold readTag?
  cases Text.dropStart? "<h" s with
  | none => rfl
  | some rest =>
    cases rest with
    | nil => rfl
    | cons d rest => rfl

theorem readRest?_fill (m : Marked) :
    (∀ first, readRest? (m.fill first) = none) ∨
      ∃ (d : Char) (inside rest : Marked), isHeadingDigit d = true ∧ m = .inl d :: (inside ++ .inl '>' :: rest) ∧
        ∀ first, readRest? (m.fill first) = some (⟨d, inside.fill first⟩, rest.fill first) := by
  cases m with
  | nil => exact .inl fun first => rfl
  | cons x m =>
    cases x with
    | inr s => exact .inl fun first => rfl
    | inl d =>
      by_cases hd : isHeadingDigit d = true
      · rcases readAttributes?_fill m with hnone | ⟨inside, rest, rfl, hinside⟩
        · left
          intro first
          rw [Marked.fill_char, readRest?, if_pos hd, hnone]
          rfl
        · refine .inr ⟨d, inside, rest, hd, rfl, ?_⟩
          intro first
          rw [Marked.fill_char, readRest?, if_pos hd, hinside]
          rfl
      · left
        intro first
        rw [Marked.fill_char, readRest?, if_neg hd]

theorem dropStart?_heading_write {s : Slot} (hs : s.owner.isHeading = false) (first : UInt64) (r : Text) :
    Text.dropStart? ['<', 'h'] (s.write first ++ r) = none := by
  obtain ⟨o, offset⟩ := s
  cases o with
  | diagram kind hk => rfl
  | code => rfl
  | heading digit hd => cases hs

/-- A heading tag is read from HTML with slots as attributes with the slots in them. -/
theorem sees_tag {m : Marked} (hm : ∀ s ∈ m.slots, s.owner.isHeading = false) :
    tag.Sees writeTag (·.isHeading = true) m := by
  have hdrop := Marked.dropStart?_fill (m := m) (c := '<') (p := ['h']) (by decide)
    fun s hs first r => dropStart?_heading_write (hm s hs) first r
  have hread : ∀ s, tag.read? s = (Text.dropStart? "<h" s).bind readRest? := readTag?_eq
  rcases hdrop with hnone | ⟨text, rfl⟩
  · left
    intro first
    have hfirst : Text.dropStart? "<h" (m.fill first) = none := hnone first
    rw [hread, hfirst]
    rfl
  · have hhead : ∀ first, Text.dropStart? "<h" (Marked.fill first (plain ['<', 'h'] ++ text)) =
        some (text.fill first) := by
      intro first
      rw [Marked.fill_append, Marked.fill_plain]
      exact Text.dropStart?_append _ _
    rcases readRest?_fill text with hnone | ⟨d, inside, rest, hd, rfl, hrest⟩
    · left
      intro first
      rw [hread, hhead, Option.bind_some, hnone]
    · refine .inr ⟨[], .heading d hd, inside ++ plain ">", rest, rfl, by simp, by simp [plain]; omega, ?_⟩
      intro first
      refine ⟨⟨d, inside.fill first⟩, ?_, ?_⟩
      · rw [hread, hhead, Option.bind_some, hrest]
      · intro id
        rw [writeTag_eq hd, Marked.fill_append, Marked.fill_plain]
        exact congrArg ('<' :: ·) (List.append_assoc _ _ _)

theorem quiet_write {s : Slot} (hs : s.owner.isHeading = false) (first : UInt64) :
    tag.Quiet (s.write first) := by
  apply findsTags_tag.quiet_tag (IdOwner.notMem_tagStart (by decide) s.owner _)
  intro r
  have hopen : Text.dropStart? "<h" (s.write first ++ r) = none := dropStart?_heading_write hs first r
  rw [Slot.write, List.cons_append] at hopen
  rw [show tag.read? = readTag? from rfl, readTag?_eq, hopen]
  rfl

end HeadingIds
end Markweave
