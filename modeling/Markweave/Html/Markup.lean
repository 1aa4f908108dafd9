import Markweave.Text

namespace Markweave.Html

structure Attribute where
  name : Text
  /-- An attribute without a value is a bare word, such as `checked`. -/
  value : Option Text
deriving Repr, DecidableEq

/-- Attribute values and verbatim text are written as they stand, so whoever makes a piece escapes what has to
be escaped. -/
inductive Markup
  | verbatim (text : Text)
  | opening (name : Text) (attributes : List Attribute)
  /-- An element that is closed where it opens. -/
  | standalone (name : Text) (attributes : List Attribute)
  | closing (name : Text)
deriving Repr, DecidableEq

def Attribute.of (name value : Text) : Attribute := ⟨name, some value⟩

def Attribute.write (a : Attribute) : Text :=
  match a.value with
  | none => " " ++ a.name
  | some v => " " ++ a.name ++ "=\"" ++ v ++ "\""

def writeAttributes (as : List Attribute) : Text := as.flatMap Attribute.write

def Markup.write : Markup → Text
  | verbatim t => t
  | opening name as => "<" ++ name ++ writeAttributes as ++ ">"
  | standalone name as => "<" ++ name ++ writeAttributes as ++ " />"
  | closing name => "</" ++ name ++ ">"

def writeAll (ms : List Markup) : Text := ms.flatMap Markup.write

theorem writeAll_append (xs ys : List Markup) : writeAll (xs ++ ys) = writeAll xs ++ writeAll ys := by
  simp [writeAll]

end Markweave.Html
