import Markweave.Text

namespace Markweave.Source

def fence : Text := "```"

def unifyLineEnds (s : Text) : Text := Text.replace "\n\r" "\n" (Text.replace "\r\n" "\n" s)

def isBlankLine (line : Text) : Bool := line.all fun c => c == ' ' || c == '\t'

/-- The dot that stands for a blank line. -/
def blankMark : Text := "."

/-- Marks the blank lines of a list except its last line. -/
def markBlankLines : List Text → List Text
  | [] => []
  | [last] => [last]
  | line :: more => (if isBlankLine line then blankMark else line) :: markBlankLines more

/-- The first and the last line are what stands beside the fences and stay as they are. -/
def protectBlankLines (code : Text) : Text :=
  match Text.splitOn '\n' (unifyLineEnds code) with
  | [] => []
  | first :: more => Text.joinWith '\n' (first :: markBlankLines more)

/-- Empties the lines that hold a single dot. -/
def restoreBlankLines (code : Text) : Text :=
  Text.joinWith '\n' ((Text.splitOn '\n' code).map fun line => if line = blankMark then [] else line)

/-- Two successive fences: the text before them, between them and after them. -/
def cutFenced? (s : Text) : Option (Text × Text × Text) :=
  match Text.cut? fence s with
  | none => none
  | some (before, rest) => (Text.cut? fence rest).map fun (code, after) => (before, code, after)

theorem eq_append_of_cutFenced? {s before code after : Text}
    (h : cutFenced? s = some (before, code, after)) :
    s = before ++ fence ++ code ++ fence ++ after := by
  simp only [cutFenced?] at h
  split at h
  · simp at h
  · next b r hb =>
    simp only [Option.map_eq_some_iff, Prod.mk.injEq, Prod.exists] at h
    obtain ⟨x, y, hxy, rfl, rfl, rfl⟩ := h
    rw [Text.eq_append_of_cut? hb, Text.eq_append_of_cut? hxy]
    simp

theorem length_of_cutFenced? {s before code after : Text}
    (h : cutFenced? s = some (before, code, after)) : after.length < s.length := by
  have hlength := congrArg List.length (eq_append_of_cutFenced? h)
  have hfence : fence.length = 3 := rfl
  simp only [List.length_append] at hlength
  omega

/-- Fences are paired from the left; one without a partner pairs with nothing. -/
def protectFenced (s : Text) : Text :=
  match _cut : cutFenced? s with
  | none => s
  | some (before, code, after) =>
    before ++ fence ++ protectBlankLines code ++ fence ++ protectFenced after
termination_by s.length
decreasing_by exact length_of_cutFenced? _cut

/-- The text before and after the first occurrence of a needle outside closed fences. -/
def cutOutsideFences? (needle s : Text) : Option (Text × Text) :=
  match Text.cut? needle s with
  | none => none
  | some (before, after) =>
    match _cut : cutFenced? s with
    | none => some (before, after)
    | some (outside, code, rest) =>
      if outside.length < before.length then
        (cutOutsideFences? needle rest).map fun (b, a) => (outside ++ fence ++ code ++ fence ++ b, a)
      else some (before, after)
termination_by s.length
decreasing_by exact length_of_cutFenced? _cut

theorem eq_append_of_cutOutsideFences? {n s a b : Text}
    (h : cutOutsideFences? n s = some (a, b)) : s = a ++ n ++ b := by
  fun_induction cutOutsideFences? n s generalizing a b with
  | case1 => simp at h
  | case2 s before after hc _ =>
    simp only [Option.some.injEq, Prod.mk.injEq] at h
    obtain ⟨rfl, rfl⟩ := h
    exact Text.eq_append_of_cut? hc
  | case3 s before after hc outside code rest hf _ ih =>
    simp only [Option.map_eq_some_iff, Prod.mk.injEq, Prod.exists] at h
    obtain ⟨x, y, hxy, rfl, rfl⟩ := h
    rw [eq_append_of_cutFenced? hf, ih hxy]
    simp
  | case4 s before after hc outside code rest hf _ =>
    simp only [Option.some.injEq, Prod.mk.injEq] at h
    obtain ⟨rfl, rfl⟩ := h
    exact Text.eq_append_of_cut? hc

end Markweave.Source
