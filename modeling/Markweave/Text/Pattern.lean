import Markweave.Ids

namespace Markweave

/-- What a pattern recognises takes up at least one character. -/
structure Pattern (α : Type) where
  read? : Text → Option (α × Text)
  shorter : ∀ {s a r}, read? s = some (a, r) → r.length < s.length

inductive Piece (α : Type)
  | plain (text : Text)
  | found (a : α)
deriving Repr, DecidableEq

namespace Piece

/-- A character in front of pieces joins a plain piece that comes first. -/
def consChar {α : Type} (c : Char) : List (Piece α) → List (Piece α)
  | plain t :: ps => plain (c :: t) :: ps
  | ps => plain [c] :: ps

/-- Writes the pieces in order, each find with the next number. -/
def number {α : Type} (write : UInt64 → α → Text) : IdCounter → List (Piece α) → Text × IdCounter
  | ids, [] => ([], ids)
  | ids, plain t :: ps =>
    let (rest, ids) := number write ids ps
    (t ++ rest, ids)
  | ids, found a :: ps =>
    let (id, ids) := ids.draw
    let (rest, ids) := number write ids ps
    (write id a ++ rest, ids)

end Piece

namespace Pattern

variable {α : Type}

/-- The pieces of a text. No two plain pieces stand side by side and none is empty. -/
def split (p : Pattern α) (s : Text) : List (Piece α) :=
  match s with
  | [] => []
  | c :: cs =>
    match _find : p.read? (c :: cs) with
    | some (a, rest) => .found a :: p.split rest
    | none => Piece.consChar c (p.split cs)
termination_by s.length
decreasing_by
  · exact p.shorter _find
  · simp

def renumber (p : Pattern α) (write : UInt64 → α → Text) (ids : IdCounter) (s : Text) :
    Text × IdCounter :=
  Piece.number write ids (p.split s)

end Pattern
end Markweave
