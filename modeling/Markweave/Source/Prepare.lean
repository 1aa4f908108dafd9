import Markweave.Html.Escape
import Markweave.Source.BlockComment
import Markweave.Substitution

namespace Markweave.Source

/-- The markup that authors may write. -/
def allowedMarkup : List Substitution :=
  [⟨"&lt;br&gt;", "<br>"⟩, ⟨"&lt;!---", commentOpen⟩, ⟨"---&gt;", commentClose⟩]

def ellipsis : Substitution := ⟨"\u2026", "..."⟩

def prepare (s : Text) : Text :=
  protectFenced (expandComments (ellipsis.apply (Substitution.applyAll allowedMarkup (Html.escapeLenient s))))

end Markweave.Source
