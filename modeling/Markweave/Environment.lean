import Markweave.Text

namespace Markweave

structure Environment where
  lines : List Text
deriving Repr, DecidableEq

namespace Environment

/-- The environment that binds each name to its value. -/
def ofList (bindings : List (Text × Text)) : Environment :=
  ⟨bindings.map fun (name, value) => name ++ '=' :: value⟩

/-- The value in the first line of a name; no variable has an empty name. -/
def get? (env : Environment) (name : Text) : Option Text :=
  if name = [] then none else env.lines.findSome? (Text.dropStart? (name ++ ['=']))

end Environment
end Markweave
