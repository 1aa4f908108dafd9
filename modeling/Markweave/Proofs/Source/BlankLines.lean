import Markweave.Proofs.Text.Interleaved
import Markweave.Proofs.Text.Lines
import Markweave.Source.Prepare

namespace Markweave.Source

/-- What stands before the fenced code is searched for blank lines. -/
def beforeFences (s : Text) : Text :=
  expandComments (ellipsis.apply (Substitution.applyAll allowedMarkup (Html.escapeLenient s)))

/-- Fenced code with uniform line ends; its blank lines stay as they are. -/
def unifyFenced (s : Text) : Text :=
  match _cut : cutFenced? s with
  | none => s
  | some (before, code, after) => before ++ fence ++ unifyLineEnds code ++ fence ++ unifyFenced after
termination_by s.length
decreasing_by exact length_of_cutFenced? _cut

/-- What happens to a document before it is read as Markdown, but for the marks on blank lines. -/
def prepareUnmarked (s : Text) : Text := unifyFenced (beforeFences s)

end Markweave.Source

namespace Markweave.Interleaved

variable {ι : Type}

/-- More text before the first item. -/
def prepend (x : Text) (l : Interleaved ι) : Interleaved ι := { l with first := x ++ l.first }

/-- An item with a gap before it. -/
def cons (gap : Text) (i : ι) (l : Interleaved ι) : Interleaved ι := ⟨gap, (i, l.first) :: l.rest⟩

@[simp]
theorem write_prepend (f : ι → Text) (x : Text) (l : Interleaved ι) : (l.prepend x).write f = x ++ l.write f := by
  simp [prepend, write]

@[simp]
theorem write_cons (f : ι → Text) (gap : Text) (i : ι) (l : Interleaved ι) :
    (l.cons gap i).write f = gap ++ f i ++ l.write f := by
  simp [cons, write, writeRest]

end Markweave.Interleaved

namespace Markweave.Source

/-- The lines behind the first line of code, their blank lines as items; then what follows. -/
def blankLinesFrom (behind : Interleaved Text) : List Text → Interleaved Text
  | [] => behind
  | [last] => behind.prepend ('\n' :: last)
  | line :: more =>
    if isBlankLine line then (blankLinesFrom behind more).cons ['\n'] line
    else (blankLinesFrom behind more).prepend ('\n' :: line)

/-- A text with the blank lines in its fenced code as items. -/
def blankLines (s : Text) : Interleaved Text :=
  match _cut : cutFenced? s with
  | none => ⟨s, []⟩
  | some (before, code, after) =>
    let behind := (blankLines after).prepend fence
    match Text.splitOn '\n' (unifyLineEnds code) with
    | [] => behind.prepend (before ++ fence)
    | first :: more => (blankLinesFrom behind more).prepend (before ++ fence ++ first)
termination_by s.length
decreasing_by exact length_of_cutFenced? _cut

/-- Writes the blank lines of a list except its last line. -/
def writeBlankLines (f : Text → Text) : List Text → List Text
  | [] => []
  | [last] => [last]
  | line :: more => (if isBlankLine line then f line else line) :: writeBlankLines f more

theorem writeBlankLines_mark (lines : List Text) :
    writeBlankLines (fun _ => blankMark) lines = markBlankLines lines := by
  fun_induction markBlankLines lines with
  | case1 => rfl
  | case2 => rfl
  | case3 line more hmore ih =>
    rw [writeBlankLines, ih]
    exact hmore

theorem writeBlankLines_id (lines : List Text) : writeBlankLines id lines = lines := by
  fun_induction writeBlankLines id lines with
  | case1 => rfl
  | case2 => rfl
  | case3 line more hmore ih => rw [ih, id, ite_self]

theorem write_blankLinesFrom (f : Text → Text) (behind : Interleaved Text) (first : Text) (more : List Text) :
    first ++ (blankLinesFrom behind more).write f =
      Text.joinWith '\n' (first :: writeBlankLines f more) ++ behind.write f := by
  have hne : ∀ lines : List Text, lines ≠ [] → writeBlankLines f lines ≠ [] := by
    intro lines h
    fun_cases writeBlankLines f lines with
    | case1 => exact absurd rfl h
    | case2 => exact List.cons_ne_nil _ _
    | case3 => exact List.cons_ne_nil _ _
  fun_induction writeBlankLines f more generalizing first with
  | case1 => rw [blankLinesFrom, Text.joinWith_singleton]
  | case2 last => simp [blankLinesFrom, Text.joinWith_cons, Text.joinWith_singleton]
  | case3 line more hmore ih =>
    rw [Text.joinWith_cons first (List.cons_ne_nil _ _), blankLinesFrom]
    · split
      · next hblank => simp [← ih]
      · next hblank => simp [← ih]
    · exact hmore

theorem protectBlankLines_eq (code : Text) : protectBlankLines code =
    match Text.splitOn '\n' (unifyLineEnds code) with
    | [] => []
    | first :: more => Text.joinWith '\n' (first :: writeBlankLines (fun _ => blankMark) more) := by
  simp only [writeBlankLines_mark]
  rfl

theorem unifyLineEnds_eq (code : Text) : unifyLineEnds code =
    match Text.splitOn '\n' (unifyLineEnds code) with
    | [] => []
    | first :: more => Text.joinWith '\n' (first :: writeBlankLines id more) := by
  have hlines := Text.joinWith_splitOn '\n' (unifyLineEnds code)
  simp only [writeBlankLines_id]
  split
  · next h => exact hlines.symm.trans (congrArg (Text.joinWith '\n') h)
  · next h => exact hlines.symm.trans (congrArg (Text.joinWith '\n') h)

/-- With the blank lines written in some way the text is what a stage makes of it, if the stage writes them so in
every fenced code. -/
theorem write_blankLines {f : Text → Text} {stage : Text → Text} {writeCode : Text → Text}
    (hnone : ∀ s, cutFenced? s = none → stage s = s)
    (hsome : ∀ s before code after, cutFenced? s = some (before, code, after) →
      stage s = before ++ fence ++ writeCode code ++ fence ++ stage after)
    (hcode : ∀ code, writeCode code =
      match Text.splitOn '\n' (unifyLineEnds code) with
      | [] => []
      | first :: more => Text.joinWith '\n' (first :: writeBlankLines f more)) (s : Text) :
    (blankLines s).write f = stage s := by
  fun_induction blankLines s with
  | case1 s hcut => simp [Interleaved.write, Interleaved.writeRest, hnone s hcut]
  | case2 s before code after hcut behind hlines ih => simp [hsome s _ _ _ hcut, hcode, hlines, behind, ih]
  | case3 s before code after hcut behind first more hlines ih =>
    rw [hsome s _ _ _ hcut, hcode, hlines]
    have hwrite := write_blankLinesFrom f behind first more
    simp only [Interleaved.write_prepend, List.append_assoc] at hwrite ⊢
    rw [hwrite]
    simp [behind, ih]

theorem write_blankLines_mark (s : Text) : (blankLines s).write (fun _ => blankMark) = protectFenced s := by
  refine write_blankLines ?_ ?_ protectBlankLines_eq s
  · intro s hcut
    rw [protectFenced]
    split
    · rfl
    · next h => cases hcut.symm.trans h
  · intro s before code after hcut
    rw [protectFenced]
    split
    · next h => cases hcut.symm.trans h
    · next h =>
      obtain ⟨rfl, rfl, rfl⟩ := by simpa using hcut.symm.trans h
      rfl

theorem write_blankLines_id (s : Text) : (blankLines s).write id = unifyFenced s := by
  refine write_blankLines ?_ ?_ unifyLineEnds_eq s
  · intro s hcut
    rw [unifyFenced]
    split
    · rfl
    · next h => cases hcut.symm.trans h
  · intro s before code after hcut
    rw [unifyFenced]
    split
    · next h => cases hcut.symm.trans h
    · next h =>
      obtain ⟨rfl, rfl, rfl⟩ := by simpa using hcut.symm.trans h
      rfl

/-- Items on lines of their own. -/
inductive OwnLines {ι : Type} : Text → List (ι × Text) → Prop
  | last (gap : Text) : OwnLines gap []
  | more {gap next : Text} {i : ι} {rest : List (ι × Text)} (hgap : gap = [] ∨ gap.getLast? = some '\n')
      (hnext : OwnLines next rest) : OwnLines gap ((i, '\n' :: next) :: rest)

theorem OwnLines.prepend {ι : Type} {x gap : Text} {rest : List (ι × Text)} (h : OwnLines gap rest)
    (hgap : gap = [] → rest = []) : OwnLines (x ++ gap) rest := by
  cases h with
  | last => exact .last _
  | more hline hnext =>
    refine .more (.inr ?_) hnext
    rw [List.getLast?_append, hline.resolve_left fun hnil => absurd (hgap hnil) (List.cons_ne_nil _ _)]
    rfl

theorem OwnLines.tail {ι : Type} {gap : Text} {rest : List (ι × Text)} (h : OwnLines ('\n' :: gap) rest) :
    OwnLines gap rest := by
  cases h with
  | last => exact .last _
  | more hline hnext =>
    refine .more ?_ hnext
    cases gap with
    | nil => exact .inl rfl
    | cons c gap => exact .inr (hline.resolve_left (List.cons_ne_nil _ _))

theorem ownLines_blankLinesFrom (behind : Interleaved Text) (hbehind : OwnLines behind.first behind.rest)
    (hne : behind.first ≠ []) (lines : List Text) :
    OwnLines (blankLinesFrom behind lines).first (blankLinesFrom behind lines).rest ∧
      (lines ≠ [] → ∃ t, (blankLinesFrom behind lines).first = '\n' :: t) := by
  fun_induction blankLinesFrom behind lines with
  | case1 => exact ⟨hbehind, fun h => absurd rfl h⟩
  | case2 last => exact ⟨hbehind.prepend fun hnil => absurd hnil hne, fun _ => ⟨_, rfl⟩⟩
  | case3 line more hmore hblank ih =>
    obtain ⟨t, ht⟩ := ih.2 hmore
    refine ⟨?_, fun _ => ⟨[], rfl⟩⟩
    have hfirst := ih.1
    rw [ht] at hfirst
    rw [Interleaved.cons, ht]
    exact .more (.inr rfl) hfirst.tail
  | case4 line more hmore hblank ih =>
    obtain ⟨t, ht⟩ := ih.2 hmore
    exact ⟨ih.1.prepend (by simp [ht]), fun _ => ⟨_, rfl⟩⟩

theorem ownLines_blankLines (s : Text) :
    OwnLines (blankLines s).first (blankLines s).rest ∧ ((blankLines s).first = [] → (blankLines s).rest = []) := by
  fun_induction blankLines s with
  | case1 s hcut => exact ⟨.last s, fun _ => rfl⟩
  | case2 s before code after hcut behind hlines ih => exact absurd hlines (Text.splitOn_ne_nil _ _)
  | case3 s before code after hcut behind first more hlines ih =>
    have hbehind : behind.first ≠ [] := List.cons_ne_nil _ _
    obtain ⟨hown, hstart⟩ := ownLines_blankLinesFrom behind (ih.1.prepend ih.2) hbehind more
    have hne : (blankLinesFrom behind more).first ≠ [] := by
      by_cases hmore : more = []
      · rw [hmore]
        exact hbehind
      · obtain ⟨t, ht⟩ := hstart hmore
        rw [ht]
        exact List.cons_ne_nil _ _
    exact ⟨hown.prepend fun hnil => absurd hnil hne, fun hnil => absurd hnil (by simp [Interleaved.prepend, fence])⟩

theorem restoreBlankLines_append_cons (a b : Text) :
    restoreBlankLines (a ++ '\n' :: b) = restoreBlankLines a ++ '\n' :: restoreBlankLines b := by
  have hlines : ∀ s : Text, (Text.splitOn '\n' s).map (fun line => if line = blankMark then [] else line) ≠ [] :=
    fun s h => Text.splitOn_ne_nil '\n' s (List.map_eq_nil_iff.mp h)
  rw [restoreBlankLines, Text.splitOn_append_cons, List.map_append, Text.joinWith_append (hlines a) (hlines b)]
  rfl

/-- Code that comes back the same, whatever follows, and that ends in the same way. -/
structure SameCode (c c' : Text) : Prop where
  restore_append : ∀ r, restoreBlankLines (c ++ r) = restoreBlankLines (c' ++ r)
  getLast?_eq : c.getLast? = c'.getLast?

namespace SameCode

variable {c c' : Text}

theorem refl (c : Text) : SameCode c c := ⟨fun _ => rfl, rfl⟩

theorem append (h : SameCode c c') (line : Text) : SameCode (c ++ line) (c' ++ line) := by
  refine ⟨fun r => ?_, ?_⟩
  · rw [List.append_assoc, List.append_assoc, h.restore_append]
  · rw [List.getLast?_append, List.getLast?_append, h.getLast?_eq]

theorem nil_iff (h : SameCode c c') : c = [] ↔ c' = [] := by
  rw [← List.getLast?_eq_none_iff, ← List.getLast?_eq_none_iff, h.getLast?_eq]

/-- A mark on a line of its own comes back as a blank line. -/
theorem mark (h : SameCode c c') (hc : c = [] ∨ c.getLast? = some '\n') :
    SameCode (c ++ (blankMark ++ ['\n'])) (c' ++ ['\n']) := by
  have hsame : ∀ d r, (d = [] ∨ d.getLast? = some '\n') →
      restoreBlankLines (d ++ (blankMark ++ '\n' :: r)) = restoreBlankLines (d ++ '\n' :: r) := by
    have hmark : ∀ r, restoreBlankLines (blankMark ++ '\n' :: r) = restoreBlankLines ('\n' :: r) := fun r =>
      (restoreBlankLines_append_cons blankMark r).trans (restoreBlankLines_append_cons [] r).symm
    rintro d r (rfl | hlast)
    · exact hmark r
    · obtain ⟨d, rfl⟩ := List.getLast?_eq_some_iff.mp hlast
      rw [List.append_assoc, List.append_assoc, List.singleton_append, List.singleton_append,
        restoreBlankLines_append_cons, hmark, restoreBlankLines_append_cons]
  refine ⟨fun r => ?_, by simp [List.getLast?_append]⟩
  have hc' : c' = [] ∨ c'.getLast? = some '\n' := by rwa [← h.nil_iff, ← h.getLast?_eq]
  rw [List.append_assoc, List.append_assoc, List.append_assoc, h.restore_append]
  exact hsame c' r hc'

end SameCode

end Markweave.Source
