import Markweave.Text

namespace Markweave

structure Substitution where
  old : Text
  new : Text
deriving Repr, DecidableEq

namespace Substitution

/-- A substitution without `old` changes nothing. -/
def apply (r : Substitution) (s : Text) : Text := Text.replace r.old r.new s

/-- Each runs over the whole result of the ones before it. -/
def applyAll (rs : List Substitution) (s : Text) : Text := rs.foldl (fun s r => r.apply s) s

end Substitution
end Markweave
