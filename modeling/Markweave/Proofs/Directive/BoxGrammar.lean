import Markweave.Proofs.Directive.Exclusive
import Markweave.Proofs.Unicode.SimpleFolding

namespace Markweave

/-- A text without the spaces at its ends. -/
structure Text.Trimmed (s trimmed : Text) : Prop where
  eq_append : ∃ a b, s = List.replicate a ' ' ++ trimmed ++ List.replicate b ' '
  head : trimmed.head? ≠ some ' '
  last : trimmed.getLast? ≠ some ' '

namespace Text

variable {s t : Text}

theorem dropWhile_replicate_append (a : Nat) (h : t.head? ≠ some ' ') :
    (List.replicate a ' ' ++ t).dropWhile (· == ' ') = t := by
  rw [List.dropWhile_append_of_pos fun c hc => beq_iff_eq.mpr (List.eq_of_mem_replicate hc)]
  cases t with
  | nil => rfl
  | cons c t => exact List.dropWhile_cons_of_neg (by simpa using h)

theorem dropEndWhile_append_replicate (b : Nat) (h : t.getLast? ≠ some ' ') :
    dropEndWhile (· == ' ') (t ++ List.replicate b ' ') = t := by
  rw [dropEndWhile, List.reverse_append, List.reverse_replicate,
    dropWhile_replicate_append b (by rwa [List.head?_reverse]), List.reverse_reverse]

theorem exists_replicate_dropWhile (s : Text) : ∃ a, s = List.replicate a ' ' ++ s.dropWhile (· == ' ') := by
  refine ⟨(s.takeWhile (· == ' ')).length, ?_⟩
  rw [← List.eq_replicate_of_mem fun c hc => beq_iff_eq.mp (List.all_eq_true.mp List.all_takeWhile c hc),
    List.takeWhile_append_dropWhile]

theorem head?_dropWhile_ne (s : Text) : (s.dropWhile (· == ' ')).head? ≠ some ' ' := by
  intro h
  have hhead := List.head?_dropWhile_not (· == ' ') s
  rw [h] at hhead
  exact absurd hhead (by decide)

theorem trimmed_iff : s.Trimmed t ↔ t = s.trimWhile (· == ' ') := by
  constructor
  · rintro ⟨⟨a, b, rfl⟩, hhead, hlast⟩
    rw [trimWhile, List.append_assoc]
    cases t with
    | nil =>
      rw [List.nil_append, List.replicate_append_replicate, ← List.append_nil (List.replicate _ _),
        dropWhile_replicate_append _ hhead]
      rfl
    | cons c t =>
      rw [dropWhile_replicate_append a (by simpa using hhead), dropEndWhile_append_replicate b hlast]
  · intro ht
    obtain ⟨a, ha⟩ := exists_replicate_dropWhile s
    obtain ⟨b, hb⟩ := exists_replicate_dropWhile (s.dropWhile (· == ' ')).reverse
    have hstart : s.dropWhile (· == ' ') = t ++ List.replicate b ' ' := by
      rw [← List.reverse_inj, hb, ht, trimWhile, dropEndWhile]
      simp
    refine ⟨⟨a, b, by rwa [List.append_assoc, ← hstart]⟩, ?_, ?_⟩
    · intro hhead
      obtain ⟨u, rfl⟩ := List.head?_eq_some_iff.mp hhead
      exact head?_dropWhile_ne s (by rw [hstart]; rfl)
    · rw [ht, trimWhile, dropEndWhile, List.getLast?_reverse]
      exact head?_dropWhile_ne _

end Text

namespace Directive

open Unicode (Ranges simpleFold)

/-- A space, a character from `#` to `_`, or a letter or number of any script. -/
def InLabel (c : Char) : Prop :=
  c = ' ' ∨ ('#' ≤ c ∧ c ≤ '_') ∨ c.isAlpha = true ∨ Unicode.isLetterOrNumber c = true

/-- Letter case does not count. -/
def IsLabelChar (c : Char) : Prop := ∃ d, InLabel d ∧ simpleFold d.toNat = simpleFold c.toNat

/-- What a comment about boxes, containers and styles begins with. -/
inductive Keyword
  | box (level : BoxLevel)
  | container
  | style
deriving DecidableEq

namespace Keyword

def text : Keyword → Text
  | box level => level.keyword
  | container => "CONTAINER"
  | style => "STYLE"

def kind (closing : Bool) : Keyword → DirectiveKind
  | box level => if closing then .boxClose level else .boxOpen level
  | container => if closing then .containerClose else .containerOpen
  | style => if closing then .styleReset else .styleSet

def slash (closing : Bool) : Text := if closing then ['/'] else []

/-- The comment is the keyword in some letter case, behind a slash if it closes, and the rest. -/
def Begins (closing : Bool) (k : Keyword) (raw rest : Text) : Prop :=
  ∃ spelling : Text, spelling.map Char.toUpper = k.text ∧ raw = slash closing ++ spelling ++ rest

/-- No longer keyword begins the comment. -/
def BeginsLongest (closing : Bool) (k : Keyword) (raw rest : Text) : Prop :=
  Begins closing k raw rest ∧ ∀ other otherRest, Begins closing other raw otherRest → other.text.length ≤ k.text.length

end Keyword

def labelRanges : Ranges := [(0x20, 0x20), (0x23, 0x5F), (0x61, 0x7A), (0x345, 0x345)] ++ Unicode.letterNumberRanges

theorem allowsLabel_eq_has (c : Char) : allowsLabel c = labelRanges.has c.toNat := by
  by_cases hascii : c.toNat < 0x80
  · have hall : ∀ n < 0x80, allowsLabel (Char.ofNat n) = labelRanges.mask.testBit n := by decide +kernel
    rw [← Ranges.testBit_mask, ← hall c.toNat hascii, Char.ofNat_toNat]
  · have hbeyond : ∀ d : Char, d.toNat < 0x80 → ¬ c ≤ d := by
      intro d hd hle
      exact hascii (Nat.lt_of_le_of_lt (UInt32.le_iff_toNat_le.mp (Char.le_def.mp hle)) hd)
    have hblank : (c == ' ') = false := beq_false_of_ne fun he => hbeyond ' ' (by decide) (he ▸ Char.le_refl _)
    have hmark : (c == '\u0345') = (decide (0x345 ≤ c.toNat) && decide (c.toNat ≤ 0x345)) := by
      rw [Bool.eq_iff_iff, beq_iff_eq, Bool.and_eq_true, decide_eq_true_eq, decide_eq_true_eq]
      constructor
      · rintro rfl
        decide
      · intro hcode
        rw [← Char.ofNat_toNat c, Nat.le_antisymm hcode.2 hcode.1]
    have hcode : ¬ c.toNat ≤ 0x20 ∧ ¬ c.toNat ≤ 0x5F ∧ ¬ c.toNat ≤ 0x7A := by omega
    rw [allowsLabel, decide_eq_false (hbeyond '_' (by decide)), decide_eq_false (hbeyond 'z' (by decide)), hblank,
      Unicode.isLetterOrNumber, if_neg hascii, hmark, Ranges.mem_eq_has]
    simp only [labelRanges, Ranges.has, List.any_append, List.any_cons, List.any_nil, decide_eq_false hcode.1,
      decide_eq_false hcode.2.1, decide_eq_false hcode.2.2, Bool.and_false, Bool.false_or, Bool.or_false, Bool.or_comm]

theorem has_labelRanges_simpleFold (n : Nat) : labelRanges.has (simpleFold n) = labelRanges.has n :=
  Ranges.has_simpleFold (by decide +kernel) n

theorem isUpper_iff {c : Char} : c.isUpper = true ↔ 'A' ≤ c ∧ c ≤ 'Z' := decide_eq_true_iff

theorem isLower_iff {c : Char} : c.isLower = true ↔ 'a' ≤ c ∧ c ≤ 'z' :=
  Bool.and_eq_true_iff.trans (and_congr decide_eq_true_iff decide_eq_true_iff)

theorem allowsLabel_of_inLabel {c : Char} (h : InLabel c) : allowsLabel c = true := by
  rcases h with rfl | ⟨hlo, hhi⟩ | hletter | hletter
  · decide
  · simp [allowsLabel, hlo, hhi]
  · rcases Bool.or_eq_true_iff.mp hletter with hupper | hlower
    · obtain ⟨hlo, hhi⟩ := isUpper_iff.mp hupper
      have hfirst : '#' ≤ c := Char.le_trans (by decide : '#' ≤ 'A') hlo
      have hlast : c ≤ '_' := Char.le_trans hhi (by decide : 'Z' ≤ '_')
      simp [allowsLabel, hfirst, hlast]
    · simp [allowsLabel, isLower_iff.mp hlower]
  · simp [allowsLabel, hletter]

/-- A label may hold what differs from its characters in case only, which adds U+0345 to them. -/
theorem allowsLabel_iff (c : Char) : allowsLabel c = true ↔ IsLabelChar c := by
  constructor
  · intro h
    by_cases hmark : c = '\u0345'
    · exact ⟨'\u03B9', .inr (.inr (.inr (by decide +kernel))), by rw [hmark]; decide +kernel⟩
    · refine ⟨c, ?_, rfl⟩
      simp only [allowsLabel, Bool.or_eq_true, Bool.and_eq_true, decide_eq_true_eq, beq_iff_eq, hmark, or_false] at h
      rcases h with ((h | h) | h) | h
      · exact .inr (.inl h)
      · exact .inr (.inr (.inl (Bool.or_eq_true_iff.mpr (.inr (isLower_iff.mpr h)))))
      · exact .inl h
      · exact .inr (.inr (.inr h))
  · rintro ⟨d, hd, hfold⟩
    have hlabel := allowsLabel_of_inLabel hd
    rwa [allowsLabel_eq_has, ← has_labelRanges_simpleFold, hfold, has_labelRanges_simpleFold, ← allowsLabel_eq_has]
      at hlabel

/-- A keyword comes before those that begin it. -/
def Form.LongestFirst (ks : List (Text × DirectiveKind)) : Prop := ks.Pairwise fun k l => ¬ k.1 <+: l.1

instance (ks : List (Text × DirectiveKind)) : Decidable (Form.LongestFirst ks) :=
  inferInstanceAs (Decidable (ks.Pairwise _))

section Read

variable {raw param : Text} {kind : DirectiveKind} {allows : Char → Bool} {ks : List (Text × DirectiveKind)}

theorem all_trimWhile_iff (hblank : allows ' ' = true) {s : Text} :
    (Text.trimWhile (· == ' ') s).all allows = true ↔ s.all allows = true := by
  rw [List.all_eq_true, List.all_eq_true]
  constructor
  · intro h c hc
    rcases Text.mem_trimWhile_or (p := (· == ' ')) hc with hc | hc
    · exact h c hc
    · rwa [beq_iff_eq.mp hc]
  · exact fun h c hc => h c (Text.mem_of_mem_trimWhile hc)

/-- What follows the longer of two keywords ends what follows the shorter. -/
theorem suffix_of_dropKeyword? {k l r u : Text} (hk : dropKeyword? k raw = some r) (hl : dropKeyword? l raw = some u)
    (hlength : k.length ≤ l.length) : u <:+ r := by
  obtain ⟨t, rfl, rfl⟩ := dropKeyword?_eq_some_iff.mp hk
  obtain ⟨v, rfl, he⟩ := dropKeyword?_eq_some_iff.mp hl
  refine List.suffix_of_suffix_length_le (he ▸ List.suffix_append v u) (List.suffix_append t r) ?_
  have := congrArg List.length he
  simp only [List.length_append, List.length_map] at this hlength
  omega

theorem Form.isSome_read? {f : Form} {k rest : Text} (hmem : (k, kind) ∈ f.keywords)
    (hdrop : dropKeyword? k raw = some rest) (hall : (Text.trimWhile (· == ' ') rest).all f.allows = true) :
    (f.read? raw).isSome = true := by
  rw [read?, List.findSome?_isSome_iff]
  refine ⟨_, hmem, ?_⟩
  simp only [hdrop, Option.bind_eq_bind, Option.bind_some, hall, if_true, Option.isSome_some]

/-- A later keyword that begins the text as well is shorter. -/
theorem Form.length_lt_of_dropKeyword? {k : Text} (hfirst : ∀ l ∈ ks, ¬ k <+: l.1)
    (hk : (dropKeyword? k raw).isSome) : ∀ l ∈ ks, (dropKeyword? l.1 raw).isSome → l.1.length < k.length := by
  intro l hl hdrop
  rcases prefix_or_prefix_of_dropKeyword? hk hdrop with hp | hp
  · exact absurd hp (hfirst l hl)
  · refine Nat.lt_of_le_of_ne hp.length_le fun he => hfirst l hl ?_
    exact hp.eq_of_length he ▸ List.prefix_refl l.1

/-- A form reads a text by the longest of its keywords that begin the text, if the label behind it is allowed. -/
theorem Form.read?_eq_some_iff {f : Form} (hblank : f.allows ' ' = true) (hks : LongestFirst f.keywords) :
    f.read? raw = some ⟨kind, param⟩ ↔
      ∃ k rest, (k, kind) ∈ f.keywords ∧ dropKeyword? k raw = some rest ∧ rest.all f.allows = true ∧
        param = rest.trimWhile (· == ' ') ∧
        ∀ l ∈ f.keywords, (dropKeyword? l.1 raw).isSome → l.1.length ≤ k.length := by
  obtain ⟨ks, allows⟩ := f
  dsimp only at hblank hks ⊢
  induction ks with
  | nil => simp [read?]
  | cons first more ih =>
    obtain ⟨k, kd⟩ := first
    obtain ⟨hfirst, hmore⟩ := List.pairwise_cons.mp hks
    specialize ih hmore
    cases hdrop : dropKeyword? k raw with
    | none =>
      rw [read?_cons_of_none hdrop, ih]
      constructor
      · rintro ⟨l, rest, hmem, hrest, hlabel, hparam, hlongest⟩
        refine ⟨l, rest, .tail _ hmem, hrest, hlabel, hparam, List.forall_mem_cons.mpr ⟨?_, hlongest⟩⟩
        simp [hdrop]
      · rintro ⟨l, rest, hmem, hrest, hlabel, hparam, hlongest⟩
        rcases List.mem_cons.mp hmem with he | hmem
        · obtain rfl := (Prod.mk.inj he).1
          cases hdrop.symm.trans hrest
        · exact ⟨l, rest, hmem, hrest, hlabel, hparam, (List.forall_mem_cons.mp hlongest).2⟩
    | some r =>
      have hshorter := length_lt_of_dropKeyword? hfirst (Option.isSome_of_eq_some hdrop)
      by_cases hall : r.all allows = true
      · rw [read?_cons_of_all hdrop ((all_trimWhile_iff hblank).mpr hall), Option.some.injEq, Directive.mk.injEq]
        constructor
        · rintro ⟨rfl, rfl⟩
          refine ⟨k, r, .head _, hdrop, hall, rfl, List.forall_mem_cons.mpr ⟨fun _ => Nat.le_refl _, ?_⟩⟩
          exact fun l hl hl' => Nat.le_of_lt (hshorter l hl hl')
        · rintro ⟨l, rest, hmem, hrest, -, hparam, hlongest⟩
          rcases List.mem_cons.mp hmem with he | hmem
          · obtain ⟨rfl, rfl⟩ := Prod.mk.inj he
            obtain rfl := Option.some.inj (hdrop.symm.trans hrest)
            exact ⟨rfl, hparam.symm⟩
          · have hlt := hshorter _ hmem (Option.isSome_of_eq_some hrest)
            have hle := hlongest _ (.head _) (Option.isSome_of_eq_some hdrop)
            exact absurd hle (Nat.not_le.mpr hlt)
      · rw [read?_cons_of_not_all hdrop fun h => hall ((all_trimWhile_iff hblank).mp h), ih]
        constructor
        · rintro ⟨l, rest, hmem, hrest, hlabel, hparam, hlongest⟩
          have hlt := hshorter _ hmem (Option.isSome_of_eq_some hrest)
          have hsuffix := suffix_of_dropKeyword? hrest hdrop (Nat.le_of_lt hlt)
          refine absurd (List.all_eq_true.mpr fun c hc => ?_) hall
          exact List.all_eq_true.mp hlabel c (hsuffix.subset hc)
        · rintro ⟨l, rest, hmem, hrest, hlabel, hparam, hlongest⟩
          rcases List.mem_cons.mp hmem with he | hmem
          · obtain ⟨rfl, rfl⟩ := Prod.mk.inj he
            obtain rfl := Option.some.inj (hdrop.symm.trans hrest)
            exact absurd hlabel hall
          · exact ⟨l, rest, hmem, hrest, hlabel, hparam, (List.forall_mem_cons.mp hlongest).2⟩

end Read

namespace Keyword

def all : List Keyword := [.box .info, .box .warn, .box .alert, .box .plain, .container, .style]

theorem mem_all (k : Keyword) : k ∈ all := by
  rcases k with (_ | _ | _ | _) | _ | _
  all_goals decide

theorem kind_injective {closing : Bool} {k l : Keyword} (h : k.kind closing = l.kind closing) : k = l := by
  cases closing <;> cases k <;> cases l <;> simp_all [kind]

/-- The form of the comments that open, or of those that close. -/
def form (closing : Bool) : Form := if closing then closeForm else openForm

theorem keywords_form (closing : Bool) :
    (form closing).keywords = all.map fun k => (slash closing ++ k.text, k.kind closing) := by
  cases closing <;> decide +kernel

theorem allows_form (closing : Bool) : (form closing).allows = allowsLabel := by
  cases closing <;> rfl

theorem longestFirst_form (closing : Bool) : Form.LongestFirst (form closing).keywords := by
  cases closing <;> decide +kernel

theorem eq_slash_of_toUpper {c : Char} (h : c.toUpper = '/') : c = '/' := by
  unfold Char.toUpper at h
  split at h
  · next hc =>
    -- A small letter has a capital, which is behind the slash.
    have hcode := congrArg (fun d : Char => d.val.toNat) h
    have hslash : '/'.val.toNat = 47 := rfl
    have hlo := UInt32.le_iff_toNat_le.mp hc.1
    have hhi := UInt32.le_iff_toNat_le.mp hc.2
    have hfirst : 'a'.val.toNat = 97 := rfl
    have hlast : 'z'.val.toNat = 122 := rfl
    have hcapital : 'A'.val.toNat = 65 := rfl
    simp only [UInt32.toNat_add, UInt32.toNat_sub] at hcode
    omega
  · exact h

theorem begins_iff {closing : Bool} {k : Keyword} {raw rest : Text} :
    k.Begins closing raw rest ↔ dropKeyword? (slash closing ++ k.text) raw = some rest := by
  rw [dropKeyword?_eq_some_iff, Begins]
  constructor
  · rintro ⟨spelling, hspelling, rfl⟩
    refine ⟨slash closing ++ spelling, ?_, rfl⟩
    rw [List.map_append, hspelling]
    cases closing <;> rfl
  · rintro ⟨t, ht, rfl⟩
    obtain ⟨start, spelling, rfl, hstart, hspelling⟩ := List.map_eq_append_iff.mp ht
    refine ⟨spelling, hspelling, ?_⟩
    cases closing with
    | false => rw [List.map_eq_nil_iff.mp hstart]; rfl
    | true =>
      obtain ⟨c, rfl, hc⟩ := List.map_eq_singleton_iff.mp hstart
      rw [eq_slash_of_toUpper hc]
      rfl

end Keyword

/-- A form that is tried after forms with other keywords reads a text as what no other form has. -/
theorem recognize?_eq_some_iff_read? {f : Form} {before after : List Form} {raw param : Text} {kind : DirectiveKind}
    (hforms : forms = before ++ f :: after) (hbefore : ∀ g ∈ before, f.Apart g)
    (hkind : ∀ g ∈ before ++ after, kind ∉ g.keywords.map Prod.snd) :
    recognize? raw = some ⟨kind, param⟩ ↔ f.read? raw = some ⟨kind, param⟩ := by
  rw [recognize?, hforms]
  constructor
  · intro h
    obtain ⟨g, hg, hread⟩ := List.exists_of_findSome?_eq_some h
    obtain ⟨k, rest, hmem, _⟩ := Form.exists_keyword_of_read? hread
    have hother : g ∉ before ++ after := fun hg => hkind g hg (List.mem_map_of_mem hmem)
    simp only [List.mem_append, List.mem_cons, not_or] at hg hother
    rcases hg with hg | rfl | hg
    · exact absurd hg hother.1
    · exact hread
    · exact absurd hg hother.2
  · intro h
    have hnone : before.findSome? (·.read? raw) = none :=
      List.findSome?_eq_none_iff.mpr fun g hg => (hbefore g hg).read?_eq_none h
    rw [List.findSome?_append, hnone, Option.none_or, List.findSome?_cons, h]

theorem recognize?_eq_some_iff_form {closing : Bool} {k : Keyword} {raw param : Text} :
    recognize? raw = some ⟨k.kind closing, param⟩ ↔
      (Keyword.form closing).read? raw = some ⟨k.kind closing, param⟩ := by
  cases closing with
  | false =>
    refine recognize?_eq_some_iff_read? (show forms = [] ++ openForm :: forms.tail from rfl) (List.forall_mem_nil _) ?_
    rcases k with (_ | _ | _ | _) | _ | _ <;> decide
  | true =>
    refine recognize?_eq_some_iff_read? (show forms = [openForm] ++ closeForm :: forms.tail.tail from rfl) ?_ ?_
    · exact List.forall_mem_singleton.mpr (by decide +kernel : closeForm.Apart openForm)
    · rcases k with (_ | _ | _ | _) | _ | _ <;> decide

/-- A comment about a box, a container or a style is its longest keyword and a label. -/
theorem recognize?_eq_some_iff_begins {closing : Bool} {k : Keyword} {raw param : Text} :
    recognize? raw = some ⟨k.kind closing, param⟩ ↔
      ∃ rest, k.BeginsLongest closing raw rest ∧ (∀ c ∈ rest, IsLabelChar c) ∧ rest.Trimmed param := by
  have hlabel : ∀ rest : Text, rest.all allowsLabel = true ↔ ∀ c ∈ rest, IsLabelChar c := by
    simp [List.all_eq_true, allowsLabel_iff]
  have hblank : (Keyword.form closing).allows ' ' = true := by
    rw [Keyword.allows_form]
    decide
  rw [recognize?_eq_some_iff_form, Form.read?_eq_some_iff hblank (Keyword.longestFirst_form closing),
    Keyword.allows_form, Keyword.keywords_form]
  constructor
  · rintro ⟨_, rest, hmem, hrest, hall, hparam, hlongest⟩
    obtain ⟨l, _, he⟩ := List.mem_map.mp hmem
    obtain ⟨rfl, hkind⟩ := Prod.mk.inj he
    obtain rfl := Keyword.kind_injective hkind
    refine ⟨rest, ⟨Keyword.begins_iff.mpr hrest, ?_⟩, (hlabel rest).mp hall, Text.trimmed_iff.mpr hparam⟩
    intro other otherRest hother
    have hle := hlongest _ (List.mem_map_of_mem (Keyword.mem_all other))
      (Option.isSome_of_eq_some (Keyword.begins_iff.mp hother))
    simpa using hle
  · rintro ⟨rest, ⟨hbegins, hlongest⟩, hall, hparam⟩
    refine ⟨_, rest, List.mem_map_of_mem (Keyword.mem_all k), Keyword.begins_iff.mp hbegins, (hlabel rest).mpr hall,
      Text.trimmed_iff.mp hparam, ?_⟩
    intro l hl hdrop
    obtain ⟨other, _, rfl⟩ := List.mem_map.mp hl
    obtain ⟨otherRest, hother⟩ := Option.isSome_iff_exists.mp hdrop
    simpa using hlongest other otherRest (Keyword.begins_iff.mpr hother)

/-- Any keyword with a label behind it makes such a comment. -/
theorem exists_recognize?_iff {closing : Bool} {raw : Text} :
    (∃ k param, recognize? raw = some ⟨Keyword.kind closing k, param⟩) ↔
      ∃ k rest, Keyword.Begins closing k raw rest ∧ ∀ c ∈ rest, IsLabelChar c := by
  constructor
  · rintro ⟨k, param, h⟩
    obtain ⟨rest, hbegins, hlabel, _⟩ := recognize?_eq_some_iff_begins.mp h
    exact ⟨k, rest, hbegins.1, hlabel⟩
  · rintro ⟨k, rest, hbegins, hlabel⟩
    have hmem : (Keyword.slash closing ++ k.text, k.kind closing) ∈ (Keyword.form closing).keywords := by
      rw [Keyword.keywords_form]
      exact List.mem_map_of_mem (Keyword.mem_all k)
    have hall : (Text.trimWhile (· == ' ') rest).all (Keyword.form closing).allows = true := by
      rw [Keyword.allows_form, List.all_eq_true]
      exact fun c hc => (allowsLabel_iff c).mpr (hlabel c (Text.mem_of_mem_trimWhile hc))
    obtain ⟨⟨kind, param⟩, hread⟩ :=
      Option.isSome_iff_exists.mp (Form.isSome_read? hmem (Keyword.begins_iff.mp hbegins) hall)
    obtain ⟨_, _, hkind, _⟩ := Form.exists_keyword_of_read? hread
    rw [Keyword.keywords_form] at hkind
    obtain ⟨l, _, he⟩ := List.mem_map.mp hkind
    obtain rfl : _ = kind := (Prod.mk.inj he).2
    exact ⟨l, param, recognize?_eq_some_iff_form.mpr hread⟩

theorem Keyword.notMem_text (k : Keyword) : ' ' ∉ k.text := by
  rcases k with (_ | _ | _ | _) | _ | _ <;> decide

/-- A space ends the keyword. -/
theorem Keyword.beginsLongest_blank {closing : Bool} {k : Keyword} {spelling : Text}
    (h : spelling.map Char.toUpper = k.text) (param : Text) :
    k.BeginsLongest closing (slash closing ++ spelling ++ ' ' :: param) (' ' :: param) := by
  refine ⟨⟨spelling, h, rfl⟩, ?_⟩
  rintro other otherRest ⟨other_spelling, hother, he⟩
  rw [List.append_assoc, List.append_assoc, List.append_cancel_left_eq] at he
  rw [← h, ← hother, List.length_map, List.length_map]
  rcases List.append_eq_append_iff.mp he with ⟨w, hw, hrest⟩ | ⟨w, hw, _⟩
  · cases w with
    | nil => simp [hw]
    | cons c w =>
      obtain rfl := (List.cons.inj hrest).1
      refine absurd ?_ other.notMem_text
      rw [← hother, hw, List.map_append]
      exact List.mem_append_right _ (List.mem_cons_self (a := Char.toUpper ' '))
  · simp [hw]

/-- Which comments are about boxes, containers and styles, and what they say: a keyword in any letter case, behind a
slash if the comment closes, and a label; the longest keyword counts, and of the label what is between the spaces at
its ends. Whatever such a label holds can be written behind the keyword and a space. -/
theorem recognize?_grammar (closing : Bool) :
    (∀ raw, (∃ k param, recognize? raw = some ⟨Keyword.kind closing k, param⟩) ↔
      ∃ k rest, Keyword.Begins closing k raw rest ∧ ∀ c ∈ rest, IsLabelChar c) ∧
    (∀ raw k param, recognize? raw = some ⟨Keyword.kind closing k, param⟩ ↔
      ∃ rest, k.BeginsLongest closing raw rest ∧ (∀ c ∈ rest, IsLabelChar c) ∧ rest.Trimmed param) ∧
    ∀ (k : Keyword) (spelling param : Text), spelling.map Char.toUpper = k.text → (∀ c ∈ param, IsLabelChar c) →
      param.head? ≠ some ' ' → param.getLast? ≠ some ' ' →
      recognize? (Keyword.slash closing ++ spelling ++ ' ' :: param) = some ⟨k.kind closing, param⟩ := by
  refine ⟨fun _ => exists_recognize?_iff, fun _ _ _ => recognize?_eq_some_iff_begins, ?_⟩
  intro k spelling param hspelling hlabel hhead hlast
  refine recognize?_eq_some_iff_begins.mpr ⟨' ' :: param, Keyword.beginsLongest_blank hspelling param, ?_, ?_⟩
  · exact List.forall_mem_cons.mpr ⟨⟨' ', .inl rfl, rfl⟩, hlabel⟩
  · exact ⟨⟨1, 0, by simp⟩, hhead, hlast⟩

/-- A close in mixed letter case with a label beyond ASCII. -/
theorem recognize?_grammar_label :
    ("bOx.Info".toList.map Char.toUpper = (Keyword.box .info).text ∧ (∀ c ∈ "Größe 1".toList, IsLabelChar c) ∧
      "Größe 1".toList.head? ≠ some ' ' ∧ "Größe 1".toList.getLast? ≠ some ' ') ∧
      recognize? "/bOx.Info Größe 1" = some ⟨.boxClose .info, "Größe 1"⟩ := by
  have hlabel : ∀ c ∈ "Größe 1".toList, IsLabelChar c := by
    have hall : "Größe 1".toList.all allowsLabel = true := by decide +kernel
    exact fun c hc => (allowsLabel_iff c).mp (List.all_eq_true.mp hall c hc)
  have hspelling : "bOx.Info".toList.map Char.toUpper = (Keyword.box .info).text := by decide +kernel
  have hends : "Größe 1".toList.head? ≠ some ' ' ∧ "Größe 1".toList.getLast? ≠ some ' ' := by decide +kernel
  exact ⟨⟨hspelling, hlabel, hends⟩,
    (recognize?_grammar true).2.2 (.box .info) "bOx.Info" "Größe 1" hspelling hlabel hends.1 hends.2⟩

end Directive
end Markweave
