import Markweave.Markdown.Event

namespace Markweave.Markdown

inductive Inline
  | text (s : Text)
  | code (s : Text)
  | html (s : Text)
  | softBreak
  | hardBreak
  | emphasis (inside : List Inline)
  | strong (inside : List Inline)
  | strikethrough (inside : List Inline)
  | link (url title : Text) (inside : List Inline)
  | image (url title : Text) (inside : List Inline)
deriving Repr

namespace Inline

mutual

def events : Inline → List Event
  | text s => [.text s]
  | code s => [.code s]
  | html s => [.inlineHtml s]
  | softBreak => [.softBreak]
  | hardBreak => [.hardBreak]
  | emphasis inside => Event.within .emphasis (eventsOfList inside)
  | strong inside => Event.within .strong (eventsOfList inside)
  | strikethrough inside => Event.within .strikethrough (eventsOfList inside)
  | link url title inside => Event.within (.link url title) (eventsOfList inside)
  | image url title inside => Event.within (.image url title) (eventsOfList inside)

def eventsOfList : List Inline → List Event
  | [] => []
  | i :: is => events i ++ eventsOfList is

end

end Inline
end Markweave.Markdown
