import Markweave.CommandLine.Run
import Markweave.Main
import Markweave.Rendering
import Markweave.Settings.Load
import Markweave.Proofs.Text.Cut
import Markweave.Proofs.Text.Interleaved
import Markweave.Proofs.Diagram.CodeBlock
import Markweave.Proofs.Diagram.SinglePass
import Markweave.Proofs.Html.Reference
import Markweave.Proofs.Html.Escape
import Markweave.Proofs.Html.Vocabulary
import Markweave.Proofs.Directive.Written
import Markweave.Proofs.Html.Written
import Markweave.Proofs.Substitution
import Markweave.Proofs.Html.Comments
import Markweave.Proofs.Html.Calm
import Markweave.Proofs.Html.Elements
import Markweave.Proofs.HeadingTag
import Markweave.Proofs.HeadingIds
import Markweave.Proofs.Rendering.Numbering
import Markweave.Proofs.Html.TagsOnly
import Markweave.Proofs.Rendering.LiveMarkup
import Markweave.Proofs.Rendering.NormalForm
import Markweave.Proofs.Rendering.Marked
import Markweave.Proofs.Rendering.Passes
import Markweave.Proofs.Rendering.Skeleton
import Markweave.Proofs.Rendering.Session
import Markweave.Proofs.Text.Lines
import Markweave.Proofs.Text.Occurrence
import Markweave.Proofs.Text.Pieces
import Markweave.Proofs.Source.Neutral
import Markweave.Proofs.Source.Prepare
import Markweave.Proofs.Html.Lenient
import Markweave.Proofs.Source.Fence
import Markweave.Proofs.Source.BlankLines
import Markweave.Proofs.Source.OutsideFences
import Markweave.Proofs.Source.FencePositions
import Markweave.Proofs.Source.Expansion
import Markweave.Proofs.Source.FenceSegments
import Markweave.Proofs.Markdown.Reads
import Markweave.Proofs.Markdown.CodeSpan
import Markweave.Proofs.Rendering.FencedCode
import Markweave.Proofs.Html.Decode
import Markweave.Proofs.Html.InlinePieces
import Markweave.Proofs.Rendering.InlineCode
import Markweave.Proofs.Markdown.LineAppend
import Markweave.Proofs.Markdown.LinkAppend
import Markweave.Proofs.Markdown.CharacterReference
import Markweave.Proofs.Markdown.Lookahead
import Markweave.Proofs.Markdown.StepAppend
import Markweave.Proofs.Markdown.LineStart
import Markweave.Proofs.Markdown.Opening
import Markweave.Proofs.Markdown.Past
import Markweave.Proofs.Markdown.Matches
import Markweave.Proofs.Markdown.CodeMarks
import Markweave.Proofs.Html.CodeEvents
import Markweave.Proofs.Rendering.BlankLines
import Markweave.Proofs.Settings
import Markweave.Proofs.Except
import Markweave.Proofs.FileTree
import Markweave.Proofs.CommandLine
import Markweave.Proofs.Settings.Load
import Markweave.Proofs.Settings.Expansion
import Markweave.Proofs.StyleHistory
import Markweave.Proofs.Directive.Grammar
import Markweave.Proofs.Directive.Template
import Markweave.Proofs.Directive.Exclusive
import Markweave.Proofs.Directive.BoxGrammar
import Markweave.Proofs.Directive.Blocks
import Markweave.Proofs.Directive.Requests
import Markweave.Proofs.Directive.TogglerModes
import Markweave.Proofs.Html.TagMarks
import Markweave.Proofs.Markdown.WellNested
import Markweave.Proofs.Html.TableState
import Markweave.Proofs.Html.Nesting
import Markweave.Proofs.Html.Table
import Markweave.Proofs.Html.Image
import Markweave.Proofs.Html.Prose
