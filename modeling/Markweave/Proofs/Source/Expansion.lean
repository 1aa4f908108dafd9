import Markweave.Proofs.Directive.Grammar
import Markweave.Proofs.Source.Neutral
import Markweave.Proofs.Source.OutsideFences
import Markweave.Proofs.Source.Prepare

namespace Markweave.Source

variable {s t w before inner after code rest : Text}

theorem unbordered_commentOpen : Text.Unbordered commentOpen := by decide

theorem unbordered_commentClose : Text.Unbordered commentClose := by decide

/-- The first opening of a comment, unless a fence stands before it. -/
def firstComment? (s : Text) : Option (Text × Text) :=
  (Text.cut? commentOpen s).filter fun (before, _) =>
    (Text.cut? fence s).all fun (outside, _) => before.length < outside.length

theorem nextMark?_eq (s : Text) : nextMark? s =
    match firstComment? s with
    | some (before, rest) =>
      (cutOutsideFences? commentClose rest).map fun (inner, after) => .comment before inner after
    | none => (cutFenced? s).map fun (before, code, after) => .fenced before code after := rfl

theorem firstComment?_eq_some_iff : firstComment? s = some (before, rest) ↔
    s = before ++ commentOpen ++ rest ∧ ¬ commentOpen <:+: before ∧ ¬ fence <:+: before := by
  rw [firstComment?, Option.filter_eq_some_iff]
  constructor
  · rintro ⟨hcut, hall⟩
    refine ⟨Text.eq_append_of_cut? hcut, Text.not_infix_of_cut? (by decide) hcut, fun hoccurs => ?_⟩
    have hs : before <+: s := ⟨commentOpen ++ rest, by rw [Text.eq_append_of_cut? hcut, List.append_assoc]⟩
    obtain ⟨x, y, hfence⟩ := Text.exists_cut?_of_infix (hoccurs.trans hs.isInfix)
    have hlength := Text.length_lt_of_infix fence_ne_nil hcut hfence hoccurs
    simp only [hfence, Option.all_some, decide_eq_true_eq] at hall
    omega
  · rintro ⟨rfl, hfree, hopen⟩
    have hcut := Text.cut?_append_of_not_infix unbordered_commentOpen hfree rest
    refine ⟨hcut, ?_⟩
    cases hfence : Text.cut? fence (before ++ commentOpen ++ rest) with
    | none => rfl
    | some cut =>
      have hlength := Text.length_lt_of_not_infix rfl (notMem_fence (by decide)) hcut hfence hopen
      simpa using hlength

theorem firstComment?_of_fence (hfree : ¬ commentOpen <:+: before) (hcut : Text.cut? fence s = some (before, rest)) :
    firstComment? s = none := by
  cases hfirst : firstComment? s with
  | none => rfl
  | some comment =>
    obtain ⟨x, y⟩ := comment
    obtain ⟨rfl, hx, hopen⟩ := firstComment?_eq_some_iff.mp hfirst
    have hcomment := Text.cut?_append_of_not_infix unbordered_commentOpen hx y
    have hbehind := Text.length_lt_of_not_infix rfl (notMem_fence (by decide)) hcomment hcut hopen
    have hbefore := Text.length_lt_of_not_infix rfl (by decide) hcut hcomment hfree
    omega

theorem nextMark?_of_comment (hfree : ¬ commentOpen <:+: before) (hopen : ¬ fence <:+: before)
    (hclose : cutOutsideFences? commentClose rest = some (inner, after)) :
    nextMark? (before ++ commentOpen ++ rest) = some (.comment before inner after) := by
  rw [nextMark?_eq, firstComment?_eq_some_iff.mpr ⟨rfl, hfree, hopen⟩]
  dsimp only
  rw [hclose]
  rfl

theorem nextMark?_of_fenced (hfree : ¬ commentOpen <:+: before) (hcut : cutFenced? s = some (before, code, after)) :
    nextMark? s = some (.fenced before code after) := by
  obtain ⟨t, hfence, _⟩ := cutFenced?_eq_some_iff.mp hcut
  rw [nextMark?_eq, firstComment?_of_fence hfree hfence]
  dsimp only
  rw [hcut]
  rfl

/-- A fence without a partner ends the search. -/
theorem nextMark?_of_open_fence (hfree : ¬ commentOpen <:+: before) (hcut : Text.cut? fence s = some (before, rest))
    (hnone : cutFenced? s = none) : nextMark? s = none := by
  rw [nextMark?_eq, firstComment?_of_fence hfree hcut]
  dsimp only
  rw [hnone]
  rfl

theorem comment_of_nextMark? (h : nextMark? s = some (.comment before inner after)) :
    ¬ commentOpen <:+: before ∧ ¬ fence <:+: before ∧ ∃ rest, s = before ++ commentOpen ++ rest ∧
      cutOutsideFences? commentClose rest = some (inner, after) := by
  rw [nextMark?_eq] at h
  split at h
  · next x rest hfirst =>
    obtain ⟨⟨_, _⟩, hclose, he⟩ := Option.map_eq_some_iff.mp h
    obtain ⟨rfl, rfl, rfl⟩ := Mark.comment.inj he
    obtain ⟨hs, hfree, hopen⟩ := firstComment?_eq_some_iff.mp hfirst
    exact ⟨hfree, hopen, rest, hs, hclose⟩
  · obtain ⟨_, _, he⟩ := Option.map_eq_some_iff.mp h
    cases he

theorem fenced_of_nextMark? (h : nextMark? s = some (.fenced before code after)) :
    ¬ commentOpen <:+: before ∧ cutFenced? s = some (before, code, after) := by
  rw [nextMark?_eq] at h
  split at h
  · obtain ⟨_, _, he⟩ := Option.map_eq_some_iff.mp h
    cases he
  · next hfirst =>
    obtain ⟨⟨outside, code, rest⟩, hcut, he⟩ := Option.map_eq_some_iff.mp h
    obtain ⟨rfl, rfl, rfl⟩ := Mark.fenced.inj he
    refine ⟨fun hoccurs => ?_, hcut⟩
    obtain ⟨x, y, hx⟩ := Text.exists_cut?_of_infix hoccurs
    have hbefore := Text.eq_append_of_cut? hx
    have hsome : firstComment? s = some (x, y ++ (fence ++ code ++ fence ++ rest)) := by
      refine firstComment?_eq_some_iff.mpr ⟨?_, Text.not_infix_of_cut? (by decide) hx, fun hfence => ?_⟩
      · rw [eq_append_of_cutFenced? hcut, hbefore]
        simp
      · refine not_infix_of_cutFenced? hcut (hfence.trans ?_)
        rw [hbefore, List.append_assoc]
        exact (List.prefix_append x _).isInfix
    cases hfirst.symm.trans hsome

theorem expandComments_of_none (h : nextMark? s = none) : expandComments s = s := by
  rw [expandComments]
  split
  · rfl
  · next hmark => cases h.symm.trans hmark
  · next hmark => cases h.symm.trans hmark

theorem expandComments_of_comment (h : nextMark? s = some (.comment before inner after)) :
    expandComments s = before ++ writeComment inner ++ expandComments after := by
  rw [expandComments]
  split
  · next hmark => cases h.symm.trans hmark
  · next hmark =>
    obtain ⟨rfl, rfl, rfl⟩ := Mark.comment.inj (Option.some.inj (h.symm.trans hmark))
    rfl
  · next hmark => cases h.symm.trans hmark

theorem expandComments_of_fenced (h : nextMark? s = some (.fenced before code after)) :
    expandComments s = before ++ fence ++ code ++ fence ++ expandComments after := by
  rw [expandComments]
  split
  · next hmark => cases h.symm.trans hmark
  · next hmark => cases h.symm.trans hmark
  · next hmark =>
    obtain ⟨rfl, rfl, rfl⟩ := Mark.fenced.inj (Option.some.inj (h.symm.trans hmark))
    rfl

/-- Text without a comment and without a fence stays before a comment. -/
theorem expandComments_prepend (hfree : ¬ commentOpen <:+: before) (hopen : ¬ fence <:+: before) (w : Text) :
    expandComments (before ++ (commentOpen ++ w)) = before ++ expandComments (commentOpen ++ w) := by
  rw [← List.append_assoc]
  cases hclose : cutOutsideFences? commentClose w with
  | some cut =>
    have hnil : nextMark? (commentOpen ++ w) = some (.comment [] cut.1 cut.2) :=
      nextMark?_of_comment (by decide : ¬ commentOpen <:+: []) (by decide) hclose
    rw [expandComments_of_comment (nextMark?_of_comment hfree hopen hclose), expandComments_of_comment hnil]
    simp
  | none =>
    have hnone : ∀ x, ¬ commentOpen <:+: x → ¬ fence <:+: x → nextMark? (x ++ commentOpen ++ w) = none := by
      intro x hx hx'
      rw [nextMark?_eq, firstComment?_eq_some_iff.mpr ⟨rfl, hx, hx'⟩]
      dsimp only
      rw [hclose]
      rfl
    have hnil : nextMark? (commentOpen ++ w) = none := hnone [] (by decide) (by decide)
    rw [expandComments_of_none (hnone before hfree hopen), expandComments_of_none hnil, List.append_assoc]

/-- Behind the close of a comment the search goes on by itself. -/
theorem expandComments_comment (hfree : ¬ OccursOutsideFences commentClose inner)
    (hopen : HasOpenFence inner → ¬ fence <:+: w) :
    expandComments (commentOpen ++ (inner ++ (commentClose ++ w))) = writeComment inner ++ expandComments w := by
  have hclose := cutOutsideFences?_append unbordered_commentClose (by decide) (by decide) hfree hopen
  have hmark : nextMark? (commentOpen ++ (inner ++ commentClose ++ w)) = some (.comment [] inner w) :=
    nextMark?_of_comment (by decide : ¬ commentOpen <:+: []) (by decide) hclose
  rw [← List.append_assoc inner, expandComments_of_comment hmark, List.nil_append]

theorem expandComments_line (hline : '\n' ∉ inner) (htick : '`' ∉ inner) (hfree : ¬ commentClose <:+: inner) :
    expandComments (commentOpen ++ (inner ++ (commentClose ++ w))) =
      commentOpen ++ (inner ++ (commentClose ++ expandComments w)) := by
  have hopen : ¬ HasOpenFence inner := by
    rw [HasOpenFence, occursOutsideFences_iff_of_notMem htick]
    exact fun h => htick (h.subset List.mem_cons_self)
  rw [← occursOutsideFences_iff_of_notMem htick] at hfree
  rw [expandComments_comment hfree fun h => absurd h hopen, writeComment_of_notMem hline]
  simp

/-- A text that opens no comment outside its closed fences stays before a comment that stays; a fence that is open in
it ends the search. -/
theorem expandComments_body (hfree : ¬ OccursOutsideFences commentOpen t) (hopen : HasOpenFence t → ¬ fence <:+: w)
    (hw : expandComments (commentOpen ++ w) = commentOpen ++ w) :
    expandComments (t ++ (commentOpen ++ w)) = t ++ (commentOpen ++ w) := by
  fun_induction outsideFences t with
  | case1 t hnone =>
    rw [occursOutsideFences_of_none _ hnone] at hfree
    rw [hasOpenFence_of_none hnone] at hopen
    by_cases hfence : fence <:+: t
    · obtain ⟨before, rest, hcut⟩ := Text.exists_cut?_of_infix hfence
      have hbefore : ¬ commentOpen <:+: before := by
        intro hoccurs
        refine hfree (hoccurs.trans ?_)
        rw [Text.eq_append_of_cut? hcut, List.append_assoc]
        exact (List.prefix_append before _).isInfix
      refine expandComments_of_none (nextMark?_of_open_fence hbefore (Text.cut?_append hcut _) ?_)
      refine cutFenced?_append_cons_eq_none (d := '<') (notMem_fence (by decide)) hnone ?_
      refine fun h => hopen hfence (Text.infix_of_infix_append (x := "!---") ?_ fence_ne_nil h)
      exact forall_notMem_fence (by decide)
    · rw [expandComments_prepend hfree hfence, hw]
  | case2 t outside code rest hsome ih =>
    rw [occursOutsideFences_of_some _ hsome, not_or] at hfree
    rw [hasOpenFence_of_some hsome] at hopen
    have hmark := nextMark?_of_fenced hfree.1 (cutFenced?_append hsome (commentOpen ++ w))
    rw [expandComments_of_fenced hmark, ih hfree.2 hopen, eq_append_of_cutFenced? hsome]
    simp

/-- What ends the body where it does not end itself. -/
def BlockForm.lineEnd (f : BlockForm) : Text := if f.body = [] || f.body.getLast? = some '\n' then [] else ['\n']

theorem BlockForm.write_append (f : BlockForm) (t : Text) : f.write ++ t =
    commentOpen ++ (f.header ++ (commentClose ++ ('\n' :: (f.body ++ f.lineEnd) ++
      (commentOpen ++ (f.close ++ (commentClose ++ t)))))) := by
  simp [write, lineEnd]

theorem BlockForm.lineEnd_cases (f : BlockForm) : f.lineEnd = [] ∨ f.lineEnd = ['\n'] := by
  unfold lineEnd
  split
  · exact .inl rfl
  · exact .inr rfl

theorem exists_writeComment (inner t : Text) : ∃ w, writeComment inner ++ t = commentOpen ++ w := by
  unfold writeComment
  split
  · next f _ => exact ⟨_, f.write_append t⟩
  · exact ⟨inner ++ (commentClose ++ t), by simp⟩

theorem plain_of_closeToken? {kind : DirectiveKind} {close : Text} (h : kind.closeToken? = some close) :
    ∀ c ∈ close, c ≠ '\n' ∧ c ≠ '`' ∧ c ≠ '-' := by
  cases kind with
  | boxOpen level => cases level <;> (obtain rfl := Option.some.inj h; exact List.all_iff_forall_prop.mp rfl)
  | containerOpen => obtain rfl := Option.some.inj h; exact List.all_iff_forall_prop.mp rfl
  | _ => cases h

/-- The first line of a comment that is written apart is read as a directive, so it holds no line end and no fence. -/
theorem plain_header {f : BlockForm} (h : BlockForm.read? inner = some f) : '\n' ∉ f.header ∧ '`' ∉ f.header := by
  obtain ⟨⟨line, body⟩, _, h⟩ := Option.bind_eq_some_iff.mp h
  obtain ⟨d, hheader, h⟩ := Option.bind_eq_some_iff.mp h
  obtain ⟨close, _, h⟩ := Option.bind_eq_some_iff.mp h
  obtain rfl := Option.some.inj h
  have hforms : ∀ c ∈ ['\n', '`'], c ≠ ' ' ∧
      ∀ f ∈ Directive.forms, f.allows c = false ∧ ∀ k ∈ f.keywords, c.toUpper ∉ k.1 :=
    List.all_iff_forall_prop.mp (by decide +kernel)
  have hnot : ∀ c ∈ ['\n', '`'], c ∉ line.dropEndWhile (· == '\r') := by
    intro c hc hmem
    obtain ⟨hblank, hform⟩ := hforms c hc
    rcases Directive.char_of_recognize? hheader hmem with rfl | ⟨f, hf, hallows | ⟨k, hk, hkeyword⟩⟩
    · exact hblank rfl
    · exact Bool.false_ne_true ((hform f hf).1.symm.trans hallows)
    · exact (hform f hf).2 k hk hkeyword
  exact ⟨hnot '\n' (by decide), hnot '`' (by decide)⟩

/-- Writing a comment makes no fence. -/
theorem not_infix_writeComment (hinner : ¬ fence <:+: inner) (ht : ¬ fence <:+: t) :
    ¬ fence <:+: writeComment inner ++ t := by
  have hfront : ∀ {y z : Text}, '`' ∉ y → ¬ fence <:+: z → ¬ fence <:+: y ++ z := fun hy hz h =>
    hz (Text.infix_of_infix_append (forall_notMem_fence hy) fence_ne_nil h)
  have happ : ∀ {x y z : Text}, '`' ∉ y → y ≠ [] → ¬ fence <:+: x → ¬ fence <:+: z →
      ¬ fence <:+: x ++ (y ++ z) := fun hy hne hx hz h =>
    (Text.infix_append_append (forall_notMem_fence hy) hne fence_ne_nil h).elim hx hz
  unfold writeComment
  split
  · next f hread =>
    obtain ⟨⟨returns, _, rfl⟩, kind, hclose⟩ := BlockForm.eq_append_of_read? hread
    have hheader : ¬ fence <:+: f.header := fun h => hinner (h.trans (List.prefix_append _ _).isInfix)
    have hbody : ¬ fence <:+: f.body := by
      refine fun h => hinner (h.trans (List.IsSuffix.isInfix ?_))
      exact ((List.suffix_cons '\n' f.body).trans (List.suffix_append returns _)).trans (List.suffix_append _ _)
    have hend : ¬ fence <:+: f.body ++ f.lineEnd := by
      rcases f.lineEnd_cases with he | he
      · rwa [he, List.append_nil]
      · rw [he]
        exact happ (y := ['\n']) (z := []) (by decide) (by decide) hbody (by decide)
    have hclosing : ¬ fence <:+: f.close ++ (commentClose ++ t) :=
      hfront (fun hc => (plain_of_closeToken? hclose _ hc).2.1 rfl) (hfront (by decide) ht)
    have hrest : ¬ fence <:+: '\n' :: (f.body ++ f.lineEnd) ++ (commentOpen ++ (f.close ++ (commentClose ++ t))) :=
      hfront (y := ['\n']) (by decide) (happ (by decide) (by decide) hend hclosing)
    rw [f.write_append]
    exact hfront (by decide) (happ (by decide) (by decide) hheader hrest)
  · have hall := hfront (y := commentOpen) (by decide) (happ (y := commentClose) (by decide) (by decide) hinner ht)
    simpa using hall

theorem not_infix_expandComments (h : ¬ fence <:+: s) : ¬ fence <:+: expandComments s := by
  fun_induction expandComments s with
  | case1 s => exact h
  | case2 s before inner after hmark ih =>
    have hs := eq_source_of_nextMark? hmark
    have hbefore : ¬ fence <:+: before := (comment_of_nextMark? hmark).2.1
    have hinner : ¬ fence <:+: inner := by
      refine fun hoccurs => h (hoccurs.trans ⟨before ++ commentOpen, commentClose ++ after, ?_⟩)
      simp [hs, Mark.source]
    have hafter : ¬ fence <:+: after := by
      refine fun hoccurs => h (hoccurs.trans ⟨before ++ commentOpen ++ (inner ++ commentClose), [], ?_⟩)
      simp [hs, Mark.source]
    have hwrite := not_infix_writeComment hinner (ih hafter)
    obtain ⟨w, hw⟩ := List.head?_eq_some_iff.mp (head?_writeComment inner (expandComments after))
    rw [hw] at hwrite
    rw [List.append_assoc, hw, Text.infix_append_cons_iff (notMem_fence (by decide)), not_or]
    exact ⟨hbefore, fun hoccurs => hwrite (List.infix_cons hoccurs)⟩
  | case3 s before code after hmark ih =>
    refine absurd ⟨before, code ++ fence ++ after, ?_⟩ h
    simp [eq_source_of_nextMark? hmark, Mark.source]

/-- The two comments that a block is written as stay on their lines, and its body stays between them. -/
theorem expandComments_write {f : BlockForm} (hread : BlockForm.read? inner = some f)
    (hfree : ¬ OccursOutsideFences commentClose inner) (hopen : HasOpenFence inner → ¬ fence <:+: t)
    (hbody : ¬ OccursOutsideFences commentOpen f.body) (ht : expandComments t = t) :
    expandComments (f.write ++ t) = f.write ++ t := by
  obtain ⟨⟨returns, hreturns, hinner⟩, kind, hclose⟩ := BlockForm.eq_append_of_read? hread
  obtain ⟨hline, htick⟩ := plain_header hread
  have hplain := plain_of_closeToken? hclose
  -- The first line of the comment shifts the fences of its body and closes none.
  have hfirst : ∀ c ∈ f.header ++ (returns ++ ['\n']), c ∉ fence := by
    intro c hc
    refine notMem_fence ?_
    rintro rfl
    simp only [List.mem_append, List.mem_singleton] at hc
    rcases hc with hc | hc | hc
    · exact htick hc
    · exact absurd (hreturns _ hc) (by decide)
    · exact absurd hc (by decide)
  have hsplit : inner = f.header ++ (returns ++ ['\n']) ++ f.body := by simp [hinner]
  rw [hsplit] at hfree hopen
  have hheader : ¬ commentClose <:+: f.header := fun h =>
    hfree (occursOutsideFences_prepend hfirst (.inl (h.trans (List.prefix_append _ _).isInfix)))
  have hsame : ∀ n : Text, n ≠ [] → '\n' ∉ n → OccursOutsideFences n ('\n' :: (f.body ++ f.lineEnd)) →
      OccursOutsideFences n f.body := by
    intro n hne hn h
    have hend := occursOutsideFences_of_cons (notMem_fence (by decide)) hn hne h
    rcases f.lineEnd_cases with he | he
    · rwa [he, List.append_nil] at hend
    · rw [he] at hend
      exact occursOutsideFences_of_concat (notMem_fence (by decide)) hn hne hend
  have hclosing : expandComments (commentOpen ++ (f.close ++ (commentClose ++ t))) =
      commentOpen ++ (f.close ++ (commentClose ++ t)) := by
    rw [expandComments_line, ht]
    · exact fun hc => (hplain _ hc).1 rfl
    · exact fun hc => (hplain _ hc).2.1 rfl
    · exact fun h => (hplain '-' (h.subset (by decide))).2.2 rfl
  have hbehind : HasOpenFence ('\n' :: (f.body ++ f.lineEnd)) → ¬ fence <:+: f.close ++ (commentClose ++ t) := by
    intro h hoccurs
    refine hopen (occursOutsideFences_prepend hfirst (.inr (hsame fence fence_ne_nil (by decide) h))) ?_
    have hclose' := Text.infix_of_infix_append (fun c hc => notMem_fence (hplain c hc).2.1) fence_ne_nil hoccurs
    exact Text.infix_of_infix_append (forall_notMem_fence (by decide)) fence_ne_nil hclose'
  have hrest := expandComments_body (fun h => hbody (hsame commentOpen (by decide) (by decide) h)) hbehind hclosing
  rw [f.write_append, expandComments_line hline htick hheader, hrest]

/-- What a comment is written as stays, and so does what it is written before. -/
theorem expandComments_writeComment (hfree : ¬ OccursOutsideFences commentClose inner)
    (hopen : HasOpenFence inner → ¬ fence <:+: t)
    (hbody : ∀ f, BlockForm.read? inner = some f → ¬ OccursOutsideFences commentOpen f.body)
    (ht : expandComments t = t) : expandComments (writeComment inner ++ t) = writeComment inner ++ t := by
  cases hread : BlockForm.read? inner with
  | none =>
    have hwrite : writeComment inner ++ t = commentOpen ++ (inner ++ (commentClose ++ t)) := by
      simp [writeComment, hread]
    have hexpand := expandComments_comment hfree hopen
    rw [ht] at hexpand
    rwa [hwrite] at hexpand ⊢
  | some f =>
    have hwrite : writeComment inner = f.write := by rw [writeComment, hread]
    rw [hwrite]
    exact expandComments_write hread hfree hopen (hbody f hread) ht

/-- The comments of a text that are written apart. -/
def blockForms (s : Text) : List BlockForm :=
  match _mark : nextMark? s with
  | none => []
  | some (.comment _ inner after) => (BlockForm.read? inner).toList ++ blockForms after
  | some (.fenced _ _ after) => blockForms after
termination_by s.length
decreasing_by all_goals exact length_of_nextMark? _mark

/-- Where no comment that is written apart opens a comment in its body outside fenced code, nothing is left to write
apart. -/
theorem expandComments_expandComments (h : ∀ f ∈ blockForms s, ¬ OccursOutsideFences commentOpen f.body) :
    expandComments (expandComments s) = expandComments s := by
  fun_induction blockForms s with
  | case1 s hmark => rw [expandComments_of_none hmark, expandComments_of_none hmark]
  | case2 s before inner after hmark ih =>
    simp only [List.mem_append, Option.mem_toList] at h
    have hafter := ih fun f hf => h f (.inr hf)
    obtain ⟨hfree, hfence, rest, _, hclose⟩ := comment_of_nextMark? hmark
    obtain ⟨hinner, hopen⟩ := free_of_cutOutsideFences? (by decide) hclose
    have hwrite := expandComments_writeComment hinner (fun hf => not_infix_expandComments (hopen hf))
      (fun f hread => h f (.inl hread)) hafter
    obtain ⟨w, hw⟩ := exists_writeComment inner (expandComments after)
    rw [expandComments_of_comment hmark, List.append_assoc]
    rw [hw] at hwrite ⊢
    rw [expandComments_prepend hfree hfence, hwrite]
  | case3 s before code after hmark ih =>
    obtain ⟨hfree, hcut⟩ := fenced_of_nextMark? hmark
    have hsame := nextMark?_of_fenced hfree (cutFenced?_append_of_cutFenced? hcut (expandComments after))
    rw [expandComments_of_fenced hmark, expandComments_of_fenced hsame, ih h]

/-- The first line ends in a dash, the body shows a comment of two lines in fenced code, and a fence is left open in
the second block. -/
theorem expandComments_expandComments_fenced_comment :
    let s : Text := "<!---BOX.INFO a-\n```\n<!---BOX b\nc--->\n```\n---> d <!---CONTAINER e\n```\nf--->"
    (blockForms s).length = 2 ∧ (∀ f ∈ blockForms s, ¬ OccursOutsideFences commentOpen f.body) ∧
      expandComments s = ("<!---BOX.INFO a---->\n```\n<!---BOX b\nc--->\n```\n<!---/BOX.INFO---> d " ++
        "<!---CONTAINER e--->\n```\nf\n<!---/CONTAINER--->" : Text) ∧
      expandComments (expandComments s) = expandComments s := by
  intro s
  have hbodies : ∀ f ∈ blockForms s, ¬ OccursOutsideFences commentOpen f.body := by decide +kernel
  exact ⟨by decide +kernel, hbodies, by decide +kernel, expandComments_expandComments hbodies⟩

end Markweave.Source
