import Markweave.Html.Markup

namespace Markweave

/-- The tags that start with a default class. -/
def styledTags : List Text :=
  List.map String.toList
    ["h1", "h2", "h3", "h4", "h5", "h6", "h7", "h8", "img", "a", "p", "table", "tr", "td", "th",
      "tbody", "thead", "br", "li", "ul", "ol", "container", "code", "box", "box-ue", "box-container",
      "infobox", "infobox-ue", "infobox-container", "warnbox", "warnbox-ue", "warnbox-container",
      "alertbox", "alertbox-ue", "alertbox-container", "togglerparent", "splitter1", "splitter2"]

def defaultClass (stylePrefix tag : Text) : Text := stylePrefix ++ "md-" ++ tag

/-- The classes of each tag, in the order in which they were added and without repeats. A registry that starts
with default classes keeps the one of each known tag whatever is reset. -/
structure StyleRegistry where
  entries : List (Text × List Text)
  /-- The class prefix of a registry that started with default classes. -/
  seed : Option Text
deriving Repr, DecidableEq

namespace StyleRegistry

def empty : StyleRegistry := ⟨[], none⟩

def seeded (stylePrefix : Text) : StyleRegistry :=
  ⟨styledTags.map fun tag => (tag, [defaultClass stylePrefix tag]), some stylePrefix⟩

def styles (r : StyleRegistry) (tag : Text) : List Text := (r.entries.lookup tag).getD []

def updateEntries (tag : Text) (f : List Text → List Text) :
    List (Text × List Text) → List (Text × List Text)
  | [] => [(tag, f [])]
  | (t, styles) :: rest =>
    if t = tag then (t, f styles) :: rest else (t, styles) :: updateEntries tag f rest

def update (r : StyleRegistry) (tag : Text) (f : List Text → List Text) : StyleRegistry :=
  { r with entries := updateEntries tag f r.entries }

/-- The class that no reset takes from the tag. -/
def protectedClass? (r : StyleRegistry) (tag : Text) : Option Text :=
  match r.seed with
  | some p => if styledTags.contains tag then some (defaultClass p tag) else none
  | none => none

def addStyle (styles : List Text) (style : Text) : List Text :=
  if styles.contains style then styles else styles ++ [style]

def setTag (styles : List Text) (r : StyleRegistry) (tag : Text) : StyleRegistry :=
  r.update tag fun present => styles.foldl addStyle present

def resetTag (styles : List Text) (r : StyleRegistry) (tag : Text) : StyleRegistry :=
  let kept := r.protectedClass? tag
  r.update tag fun present => present.filter fun s => kept == some s || !styles.contains s

/-- Adds every style to every tag; empty names are passed over. -/
def set (r : StyleRegistry) (tags styles : List Text) : StyleRegistry :=
  (tags.filter (· ≠ [])).foldl (setTag (styles.filter (· ≠ []))) r

/-- Takes every style from every tag, the default class of the tag excepted. -/
def reset (r : StyleRegistry) (tags styles : List Text) : StyleRegistry :=
  (tags.filter (· ≠ [])).foldl (resetTag styles) r

def classes (r : StyleRegistry) (tag : Text) : Text := Text.joinWith ' ' (r.styles tag)

/-- No attribute for a tag without classes. -/
def classAttribute (r : StyleRegistry) (tag : Text) : List Html.Attribute :=
  if r.styles tag = [] then [] else [.of "class" (r.classes tag)]

end StyleRegistry
end Markweave
