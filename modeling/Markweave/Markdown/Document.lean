import Markweave.Markdown.BlockReader

namespace Markweave.Markdown

structure Document where
  blocks : List Block
  definitions : Link.Definitions
deriving Repr

def Document.read (opts : Options) (s : Text) : Document :=
  let o := BlockReader.run opts .empty 0 s
  ⟨o.finish, o.definitions⟩

def Document.events (opts : Options) (d : Document) : List Event :=
  Event.mergeText (Block.eventsOfList ⟨opts.strikethrough, d.definitions⟩ false d.blocks)

/-- The events of a text, texts side by side joined. -/
def events (opts : Options) (s : Text) : List Event := (Document.read opts s).events opts

end Markweave.Markdown
