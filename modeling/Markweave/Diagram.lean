import Markweave.Text.Pattern

namespace Markweave

structure DiagramKind where
  /-- The first word of the info string. -/
  tag : Text
  /-- What precedes the number in the placeholder's id. -/
  idStem : Text
  cssClass : Text
deriving Repr, DecidableEq

namespace DiagramKind

def all : List DiagramKind :=
  [⟨"mermaid", "inlineMermaid", "mermaid"⟩,
    ⟨"yaiofreemind", "inlineMindmap", "yaiomindmap"⟩,
    ⟨"yaiomindmap", "inlineMindmap", "yaiomindmap"⟩,
    ⟨"yaioplantuml", "yaioplantuml", "yaioplantuml"⟩,
    ⟨"ymffreemind", "inlineMindmap", "ymfmindmap"⟩,
    ⟨"ymfmindmap", "inlineMindmap", "ymfmindmap"⟩,
    ⟨"ymfplantuml", "ymfplantuml", "ymfplantuml"⟩]

def placeholder (k : DiagramKind) (id : UInt64) (body : Text) : Text :=
  "<div id=\"" ++ k.idStem ++ UInt64.text id ++ "\" class=\"" ++ k.cssClass ++ "\">" ++ body ++ "</div>"

end DiagramKind

namespace Diagram

def openingTag (marker : Text) : Text := "<code class=\"" ++ marker ++ "\">"

/-- The rest of an info string up to its line end; markup does not belong to one. -/
def skipInfo? (s : Text) : Option Text :=
  match s.dropWhile fun c => c != '\n' && c != '<' with
  | '\n' :: rest => some rest
  | _ => none

/-- After the tag of a kind the info string ends or goes on behind a blank. -/
def skipTagged? (k : DiagramKind) (s : Text) : Option Text :=
  match Text.dropStart? k.tag s with
  | some ('\n' :: rest) => some rest
  | some (' ' :: rest) => skipInfo? rest
  | some ('\t' :: rest) => skipInfo? rest
  | _ => none

/-- No control characters except the tab and line ends. -/
def isBodyChar (c : Char) : Bool :=
  (32 ≤ c.toNat && c.toNat ≠ 127) || c == '\t' || c == '\n' || c == '\r'

/-- A body up to the end of its element, and what follows. -/
def readBody? (s : Text) : Option (Text × Text) :=
  (Text.cut? "</code>" s).filter fun (body, _) => body.all isBodyChar

def readCode? (marker : Text) (skip? : Text → Option Text) (s : Text) : Option (Text × Text) :=
  (Text.dropStart? (openingTag marker) s).bind fun info => (skip? info).bind readBody?

theorem length_of_skipInfo? {s r : Text} (h : skipInfo? s = some r) : r.length < s.length := by
  unfold skipInfo? at h
  split at h
  · next rest hd =>
    simp only [Option.some.injEq] at h
    subst h
    have := (List.dropWhile_suffix (l := s) fun c => c != '\n' && c != '<').length_le
    rw [hd] at this
    simp only [List.length_cons] at this
    omega
  · simp at h

theorem length_of_skipTagged? {k : DiagramKind} {s r : Text} (h : skipTagged? k s = some r) :
    r.length < s.length := by
  unfold skipTagged? at h
  split at h
  · next rest hd =>
    simp only [Option.some.injEq] at h
    subst h
    simp [Text.eq_append_of_dropStart? hd]
    omega
  · next rest hd =>
    have := length_of_skipInfo? h
    simp [Text.eq_append_of_dropStart? hd]
    omega
  · next rest hd =>
    have := length_of_skipInfo? h
    simp [Text.eq_append_of_dropStart? hd]
    omega
  · simp at h

theorem length_of_readCode? {marker : Text} {skip? : Text → Option Text} {s body r : Text}
    (hskip : ∀ {s r}, skip? s = some r → r.length < s.length)
    (h : readCode? marker skip? s = some (body, r)) : r.length < s.length := by
  simp only [readCode?, readBody?, Option.bind_eq_some_iff, Option.filter_eq_some_iff] at h
  obtain ⟨info, hi, text, ht, hb, _⟩ := h
  have h₁ := congrArg List.length (Text.eq_append_of_dropStart? hi)
  have h₂ := hskip ht
  have h₃ := congrArg List.length (Text.eq_append_of_cut? hb)
  simp only [List.length_append] at h₁ h₃
  omega

def tagged (marker : Text) (k : DiagramKind) : Pattern Text where
  read? := readCode? marker (skipTagged? k)
  shorter := length_of_readCode? length_of_skipTagged?

def untagged (marker : Text) : Pattern Text where
  read? := readCode? marker skipInfo?
  shorter := length_of_readCode? length_of_skipInfo?

def codePlaceholder (stylePrefix : Text) (id : UInt64) (body : Text) : Text :=
  "<pre><code id=\"inlineCode" ++ UInt64.text id ++ "\" class=\"" ++ stylePrefix ++ "code txt\">" ++ body ++
    "</code></pre>"

/-- One pass of a kind. -/
def extractKind (marker : Text) (state : Text × IdCounter) (k : DiagramKind) : Text × IdCounter :=
  (tagged marker k).renumber k.placeholder state.2 state.1

/-- All passes: the kinds in order, then code of no kind. -/
def extract (stylePrefix : Text) (ids : IdCounter) (html : Text) : Text × IdCounter :=
  let marker := stylePrefix ++ "md-code"
  let (html, ids) := DiagramKind.all.foldl (extractKind marker) (html, ids)
  (untagged marker).renumber (codePlaceholder stylePrefix) ids html

end Diagram
end Markweave
