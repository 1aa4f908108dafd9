import Markweave.Directive.Grammar
import Markweave.Source.Fence

namespace Markweave.Source

def commentOpen : Text := "<!---"

def commentClose : Text := "--->"

/-- The first line of a comment, its other lines, and the directive that closes the first. -/
structure BlockForm where
  header : Text
  body : Text
  close : Text
deriving Repr, DecidableEq

def BlockForm.read? (inner : Text) : Option BlockForm := do
  let (line, body) ← Text.cut? "\n" inner
  let header := line.dropEndWhile (· == '\r')
  let close ← (← Directive.recognize? header).kind.closeToken?
  return ⟨header, body, close⟩

def BlockForm.write (f : BlockForm) : Text :=
  let newline : Text := if f.body = [] || f.body.getLast? = some '\n' then [] else ['\n']
  commentOpen ++ f.header ++ commentClose ++ ['\n'] ++ f.body ++ newline ++
    commentOpen ++ f.close ++ commentClose

def writeComment (inner : Text) : Text :=
  match BlockForm.read? inner with
  | some f => f.write
  | none => commentOpen ++ inner ++ commentClose

/-- What comes first in a text: a comment that is closed, or two fences. -/
inductive Mark
  | comment (before inner after : Text)
  | fenced (before code after : Text)

/-- The next mark. An open comment without a close and a fence without a partner end the search. -/
def nextMark? (s : Text) : Option Mark :=
  let fences := Text.cut? fence s
  let comment := (Text.cut? commentOpen s).filter fun (before, _) =>
    fences.all fun (outside, _) => before.length < outside.length
  match comment with
  | some (before, rest) =>
    (cutOutsideFences? commentClose rest).map fun (inner, after) => .comment before inner after
  | none => (cutFenced? s).map fun (before, code, after) => .fenced before code after

def Mark.after : Mark → Text
  | comment _ _ after => after
  | fenced _ _ after => after

theorem length_of_nextMark? {s : Text} {m : Mark} (h : nextMark? s = some m) :
    m.after.length < s.length := by
  simp only [nextMark?] at h
  split at h
  · next b r hc =>
    simp only [Option.map_eq_some_iff, Prod.exists] at h
    obtain ⟨x, y, hxy, rfl⟩ := h
    have h₁ := congrArg List.length (Text.eq_append_of_cut? (Option.filter_eq_some_iff.1 hc).1)
    have h₂ := congrArg List.length (eq_append_of_cutOutsideFences? hxy)
    simp only [List.length_append, commentOpen, commentClose, String.length_toList] at h₁ h₂
    have h₃ : "<!---".length = 5 := rfl
    have h₄ : "--->".length = 4 := rfl
    simp only [Mark.after]
    omega
  · simp only [Option.map_eq_some_iff, Prod.exists] at h
    obtain ⟨x, y, z, hxyz, rfl⟩ := h
    exact length_of_cutFenced? hxyz

/-- A comment whose first line opens a box or a container is written apart. Everything else, and whatever stands
inside closed fences, is left as it is. -/
def expandComments (s : Text) : Text :=
  match _mark : nextMark? s with
  | none => s
  | some (.comment before inner after) => before ++ writeComment inner ++ expandComments after
  | some (.fenced before code after) =>
    before ++ fence ++ code ++ fence ++ expandComments after
termination_by s.length
decreasing_by all_goals exact length_of_nextMark? _mark

end Markweave.Source
