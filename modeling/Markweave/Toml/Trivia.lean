import Markweave.Text

namespace Markweave.Toml

/-- Takes a beginning off a text and leaves the rest, or refuses. -/
abbrev Reader (α : Type) := Text → Option (α × Text)

def isBlank (c : Char) : Bool := c = ' ' || c = '\t'

/-- Comments and strings hold no control character but the tab. -/
def isPlain (c : Char) : Bool := c = '\t' || (' ' ≤ c && c ≠ '\x7f')

/-- Past a line end, LF or CR LF. -/
def newline? : Text → Option Text
  | '\n' :: s => some s
  | '\r' :: '\n' :: s => some s
  | _ => none

theorem length_newline? {s r : Text} (h : newline? s = some r) : r.length < s.length := by
  unfold newline? at h
  split at h
  · cases h
    exact Nat.lt_succ_self _
  · cases h
    simp only [List.length_cons]
    omega
  · cases h

def skipBlanks (s : Text) : Text := s.dropWhile isBlank

def skipComment : Text → Text
  | '#' :: s => s.dropWhile isPlain
  | s => s

theorem length_skipBlanks_le (s : Text) : (skipBlanks s).length ≤ s.length :=
  (List.dropWhile_sublist _).length_le

theorem length_skipComment_le (s : Text) : (skipComment s).length ≤ s.length := by
  unfold skipComment
  split
  · have := (List.dropWhile_sublist isPlain (l := ‹Text›)).length_le
    simp only [List.length_cons]
    omega
  · exact Nat.le_refl _

/-- To the end of the line, or to what else stands on it. -/
def skipToLineEnd (s : Text) : Text := skipComment (skipBlanks s)

/-- Past all blanks, comments and line ends. -/
def skipTrivia (s : Text) : Text :=
  match _next : newline? (skipToLineEnd s) with
  | some r => skipTrivia r
  | none => skipToLineEnd s
termination_by s.length
decreasing_by
  have := length_newline? _next
  have := length_skipComment_le (skipBlanks s)
  have := length_skipBlanks_le s
  simp only [skipToLineEnd] at *
  omega

end Markweave.Toml
