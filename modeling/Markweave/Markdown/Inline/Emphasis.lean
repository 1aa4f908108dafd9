import Markweave.Markdown.Inline

namespace Markweave.Markdown.Inline

structure Run where
  mark : Char
  /-- Marks that are not used up. -/
  count : Nat
  /-- Marks that the run had at first. -/
  length : Nat
  opens : Bool
  closes : Bool
deriving Repr, DecidableEq

namespace Run

def isBoth (r : Run) : Bool := r.opens && r.closes

def literal (r : Run) : Inline := .text (List.replicate r.count r.mark)

/-- Tildes must be equally many. A run that could do both fits another only if their lengths do not add
up to a multiple of three, unless both are multiples of three. -/
def fits (opener closer : Run) : Bool :=
  opener.mark == closer.mark && (closer.mark != '~' || opener.length == closer.length) &&
    ((!opener.isBoth && !closer.isBoth) || (opener.length + closer.length) % 3 ≠ 0 ||
      closer.length % 3 = 0)

/-- Emphasis for a number of marks, two of them strong, the inner ones first. -/
def wrap (mark : Char) : Nat → List Inline → List Inline
  | 0, inside => inside
  | 1, inside => [if mark == '~' then .strikethrough inside else .emphasis inside]
  | n + 2, inside => wrap mark n [if mark == '~' then .strikethrough inside else .strong inside]

end Run

/-- Running text before emphasis is found. -/
inductive Node
  | inline (i : Inline)
  | run (r : Run)
deriving Repr

/-- An open run and what stands behind it, last first. -/
structure Opener where
  run : Run
  content : List Inline
deriving Repr

/-- Open runs, innermost first, over what stands before all of them, last first. -/
structure Openers where
  stack : List Opener
  base : List Inline
deriving Repr

namespace Openers

def pushAll (o : Openers) (is : List Inline) : Openers :=
  match o.stack with
  | [] => { o with base := is ++ o.base }
  | top :: below => { o with stack := { top with content := is ++ top.content } :: below }

/-- What open runs have become as text, last first. -/
def asText (openers : List Opener) : List Inline :=
  openers.flatMap fun o => o.content ++ [o.run.literal]

/-- Takes the nearest fitting open run: everything above it turns into its content. -/
def take? (closer : Run) : List Opener → Option (Opener × List Opener)
  | [] => none
  | top :: below =>
    if top.run.fits closer then some (top, below)
    else (take? closer below).map fun (found, rest) =>
      ({ found with content := asText [top] ++ found.content }, rest)

/-- Uses up the marks of a closing run as far as open runs fit; the number bounds the matches. -/
def close : Nat → Run → Openers → Run × Openers
  | 0, closer, o => (closer, o)
  | n + 1, closer, o =>
    if closer.count = 0 then (closer, o)
    else match take? closer o.stack with
      | none => (closer, o)
      | some (found, rest) =>
        let used := min closer.count found.run.count
        let inside := Run.wrap closer.mark used found.content.reverse
        let left := found.run.count - used
        let o : Openers :=
          if left = 0 then pushAll { o with stack := rest } inside.reverse
          else { o with stack := ⟨{ found.run with count := left }, inside.reverse⟩ :: rest }
        close n { closer with count := closer.count - used } o

def add (o : Openers) : Node → Openers
  | .inline i => o.pushAll [i]
  | .run r =>
    let (r, o) := if r.closes then close r.count r o else (r, o)
    if r.count = 0 then o
    else if r.opens then { o with stack := ⟨r, []⟩ :: o.stack }
    else o.pushAll [r.literal]

end Openers

/-- Running text with its emphasis found. -/
def resolve (nodes : List Node) : List Inline :=
  let o := nodes.foldl Openers.add ⟨[], []⟩
  (Openers.asText o.stack ++ o.base).reverse

end Markweave.Markdown.Inline
