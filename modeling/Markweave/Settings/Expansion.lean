import Markweave.Environment
import Markweave.Unicode.Alphabetic

namespace Markweave.Settings

/-- A text without a braced reference stands as it is. In any other, dollar signs are read throughout: a name in
braces, perhaps with a fallback, a bare name, or a doubled dollar for a single one. -/
inductive Segment
  | verbatim (t : Text)
  | reference (name : Text) (fallback : Option Text)
deriving Repr, DecidableEq

namespace Segment

def isNameChar (c : Char) : Bool := Unicode.isAlphanumeric c || c = '_'

/-- What stands between braces: a name, and a fallback after the first `:-` that is not right at its
beginning. -/
def ofBraces (inner : Text) : Segment :=
  match Text.cut? ":-".toList inner with
  | some (c :: name, fallback) => .reference (c :: name) (some fallback)
  | _ => .reference inner none

def ofText : Text → List Segment
  | [] => []
  | '$' :: '\x7b' :: s =>
    match _cut : Text.cut? ['\x7d'] s with
    | some (inner, rest) => ofBraces inner :: ofText rest
    | none => .verbatim ['$', '\x7b'] :: ofText s
  | '$' :: '$' :: s => .verbatim ['$'] :: ofText s
  | '$' :: s =>
    if (s.takeWhile isNameChar).isEmpty then .verbatim ['$'] :: ofText s
    else .reference (s.takeWhile isNameChar) none :: ofText (s.dropWhile isNameChar)
  | c :: s => .verbatim [c] :: ofText s
termination_by s => s.length
decreasing_by
  · have := congrArg List.length (Text.eq_append_of_cut? _cut)
    simp only [List.length_append, List.length_cons] at this ⊢
    omega
  all_goals simp only [List.length_cons]
  any_goals omega
  have := (List.dropWhile_sublist isNameChar (l := s)).length_le
  omega

/-- The text of a segment, or the name of the variable that is not set. -/
def resolve (env : Environment) : Segment → Except Text Text
  | verbatim t => .ok t
  | reference name fallback =>
    match env.get? name, fallback with
    | some value, _ => .ok value
    | none, some t => .ok t
    | none, none => .error name

end Segment

/-- Values and fallbacks are taken as they are and not read for references again. -/
def expand (env : Environment) (s : Text) : Except Text Text :=
  if Text.contains ['$', '\x7b'] s then
    ((Segment.ofText s).mapM (Segment.resolve env)).map List.flatten
  else .ok s

end Markweave.Settings
