import Markweave.Text
import Markweave.Toml.Trivia

namespace Markweave.Toml

/-- A character given by a fixed count of hexadecimal digits. -/
def codePoint? (count : Nat) : Reader Char := fun s =>
  let digits := s.take count
  let n := Text.valueOf 16 digits
  if digits.length = count && digits.all Text.isHexDigit && decide n.isValidChar then
    some (Char.ofNat n, s.drop count)
  else none

/-- What a backslash and the text after it stand for. -/
def escape? : Reader Char
  | 'b' :: s => some ('\x08', s)
  | 't' :: s => some ('\t', s)
  | 'n' :: s => some ('\n', s)
  | 'f' :: s => some ('\x0c', s)
  | 'r' :: s => some ('\r', s)
  | 'e' :: s => some ('\x1b', s)
  | '"' :: s => some ('"', s)
  | '\\' :: s => some ('\\', s)
  | 'x' :: s => codePoint? 2 s
  | 'u' :: s => codePoint? 4 s
  | 'U' :: s => codePoint? 8 s
  | _ => none

theorem length_codePoint? {n : Nat} {s r : Text} {c : Char} (h : codePoint? n s = some (c, r)) :
    r.length ≤ s.length := by
  simp only [codePoint?] at h
  split at h
  · simp only [Option.some.injEq, Prod.mk.injEq] at h
    simp [← h.2]
  · simp at h

theorem length_escape? {s r : Text} {c : Char} (h : escape? s = some (c, r)) :
    r.length < s.length := by
  unfold escape? at h
  split at h
  all_goals first
    | exact Nat.lt_succ_of_le (length_codePoint? h)
    | simp_all

/-- Up to the closing quote of a one-line string with escapes. -/
def basic? : Text → Option (Text × Text)
  | [] => none
  | '"' :: s => some ([], s)
  | '\\' :: s =>
    match _step : escape? s with
    | some (c, s) => (basic? s).map fun (t, rest) => (c :: t, rest)
    | none => none
  | c :: s => if isPlain c then (basic? s).map fun (t, rest) => (c :: t, rest) else none
termination_by s => s.length
decreasing_by
  · have := length_escape? _step
    simp only [List.length_cons]
    omega
  · simp

/-- Up to the closing quote of a one-line string without escapes. -/
def literal? : Reader Text := fun s =>
  match s.span fun c => isPlain c && c ≠ '\'' with
  | (t, '\'' :: rest) => some (t, rest)
  | _ => none

/-- Two more quotes at most, right after three closing ones, still belong to the string. -/
def lastQuotes (quote : Char) (s : Text) : Text × Text :=
  let extra := (s.take 2).takeWhile (· = quote)
  (extra, s.drop extra.length)

def skipBlankLines : Text → Text
  | '\r' :: '\n' :: s => skipBlankLines s
  | c :: s => if isBlank c || c = '\n' then skipBlankLines s else c :: s
  | [] => []

theorem length_skipBlankLines_le (s : Text) : (skipBlankLines s).length ≤ s.length := by
  fun_induction skipBlankLines s with
  | case1 s ih => simp only [List.length_cons]; omega
  | case2 c s _ _ ih => simp only [List.length_cons]; omega
  | case3 => exact Nat.le_refl _
  | case4 => exact Nat.le_refl _

/-- After a backslash at the end of a line, the next character that is no blank. -/
def continuation? (s : Text) : Option Text := (newline? (skipBlanks s)).map skipBlankLines

theorem length_continuation? {s r : Text} (h : continuation? s = some r) : r.length < s.length := by
  simp only [continuation?, Option.map_eq_some_iff] at h
  obtain ⟨t, ht, rfl⟩ := h
  have := length_newline? ht
  have := length_skipBlanks_le s
  have := length_skipBlankLines_le t
  omega

/-- Up to the three closing quotes of a string with escapes. -/
def longBasic? : Text → Option (Text × Text)
  | [] => none
  | '"' :: '"' :: '"' :: s => some (lastQuotes '"' s)
  | '\\' :: s =>
    match _continued : continuation? s, _step : escape? s with
    | some s, _ => longBasic? s
    | none, some (c, s) => (longBasic? s).map fun (t, rest) => (c :: t, rest)
    | none, none => none
  | '\r' :: '\n' :: s => (longBasic? s).map fun (t, rest) => ('\r' :: '\n' :: t, rest)
  | c :: s =>
    if isPlain c || c = '\n' then (longBasic? s).map fun (t, rest) => (c :: t, rest) else none
termination_by s => s.length
decreasing_by
  · have := length_continuation? _continued
    simp only [List.length_cons]
    omega
  · have := length_escape? _step
    simp only [List.length_cons]
    omega
  · simp only [List.length_cons]
    omega
  · simp

/-- Up to the three closing quotes of a string without escapes. -/
def longLiteral? : Text → Option (Text × Text)
  | [] => none
  | '\'' :: '\'' :: '\'' :: s => some (lastQuotes '\'' s)
  | '\r' :: '\n' :: s => (longLiteral? s).map fun (t, rest) => ('\r' :: '\n' :: t, rest)
  | c :: s =>
    if isPlain c || c = '\n' then (longLiteral? s).map fun (t, rest) => (c :: t, rest) else none

/-- A line end right after the opening quotes is not part of the string. -/
def skipFirstNewline (s : Text) : Text := (newline? s).getD s

def quoted? : Reader Text
  | '"' :: '"' :: '"' :: s => longBasic? (skipFirstNewline s)
  | '"' :: s => basic? s
  | '\'' :: '\'' :: '\'' :: s => longLiteral? (skipFirstNewline s)
  | '\'' :: s => literal? s
  | _ => none

end Markweave.Toml
