import Markweave.Text.Pattern
import Markweave.Unicode.Ranges

namespace Markweave.Html

/-- The markup that counts inside running text: a directive in a comment, and a line break. -/
inductive InlineToken
  | directive (raw : Text)
  | lineBreak
deriving Repr, DecidableEq

namespace InlineToken

/-- The end of a line break tag: blanks, a slash that may be missing, the bracket. -/
def closeBreak? (s : Text) : Option Text :=
  match s.dropWhile Unicode.isBlank with
  | '>' :: rest => some rest
  | '/' :: '>' :: rest => some rest
  | _ => none

def readDirective? (s : Text) : Option (Text × Text) :=
  (Text.dropStart? "<!---" s).bind (Text.cut? "--->")

def read? (s : Text) : Option (InlineToken × Text) :=
  match readDirective? s with
  | some (raw, rest) => some (directive raw, rest)
  | none => ((Text.dropStart? "<br" s).bind closeBreak?).map (lineBreak, ·)

theorem length_of_closeBreak? {s r : Text} (h : closeBreak? s = some r) : r.length < s.length := by
  unfold closeBreak? at h
  have hle := (List.dropWhile_suffix (l := s) Unicode.isBlank).length_le
  split at h
  · next rest hd =>
    simp only [Option.some.injEq] at h
    subst h
    rw [hd] at hle
    simp only [List.length_cons] at hle
    omega
  · next rest hd =>
    simp only [Option.some.injEq] at h
    subst h
    rw [hd] at hle
    simp only [List.length_cons] at hle
    omega
  · simp at h

theorem length_of_readDirective? {s a r : Text} (h : readDirective? s = some (a, r)) :
    r.length < s.length := by
  simp only [readDirective?, Option.bind_eq_some_iff] at h
  obtain ⟨t, ht, hc⟩ := h
  simp [Text.eq_append_of_dropStart? ht, Text.eq_append_of_cut? hc]
  omega

def pattern : Pattern InlineToken where
  read? := read?
  shorter := by
    intro s a r h
    unfold read? at h
    split at h
    · next hd =>
      simp only [Option.some.injEq, Prod.mk.injEq] at h
      obtain ⟨_, rfl⟩ := h
      exact length_of_readDirective? hd
    · simp only [Option.map_eq_some_iff, Option.bind_eq_some_iff, Prod.mk.injEq] at h
      obtain ⟨t, ⟨u, hu, hb⟩, _, rfl⟩ := h
      have := length_of_closeBreak? hb
      simp [Text.eq_append_of_dropStart? hu]
      omega

end InlineToken

/-- The pieces of running text: directives, line breaks, and what stands between. -/
def inlinePieces (s : Text) : List (Piece InlineToken) := InlineToken.pattern.split s

end Markweave.Html
