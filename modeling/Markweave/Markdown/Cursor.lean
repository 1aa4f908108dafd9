import Markweave.Markdown.Line

namespace Markweave.Markdown

/-- A place in a line with its column. A tab reaches to the next multiple of four columns and may be used up in
parts. -/
structure Cursor where
  rest : Text
  column : Nat
  /-- Columns of the tab just entered that are not used up. -/
  pending : Nat
deriving Repr, DecidableEq

namespace Cursor

def start (s : Text) : Cursor := ⟨s, 0, 0⟩

/-- Skips up to a number of columns of spaces and tabs; also says how many were missing. -/
def skipFrom : Nat → Text → Nat → Nat → Nat × Cursor
  | n + 1, ' ' :: s, column, pending => skipFrom n s (column + 1) pending
  | n + 1, '\t' :: s, column, _ =>
    let width := 4 - column % 4
    let used := min width (n + 1)
    skipFrom (n + 1 - used) s (column + width) (width - used)
  | n, s, column, pending => (n, ⟨s, column, pending⟩)

def skip (c : Cursor) (n : Nat) : Nat × Cursor :=
  let used := min c.pending n
  skipFrom (n - used) c.rest c.column (c.pending - used)

def skipAll (c : Cursor) : Cursor :=
  let rest := c.rest.dropWhile fun x => x == ' ' || x == '\t'
  ⟨rest, c.column + (c.rest.length - rest.length), 0⟩

/-- Moves over characters that are one column wide. -/
def advance (c : Cursor) (n : Nat) : Cursor := ⟨c.rest.drop n, c.column + n, c.pending⟩

/-- The columns of a tab that are left over, as spaces. -/
def indentation (c : Cursor) : Text := List.replicate c.pending ' '

end Cursor
end Markweave.Markdown
