import TutorialPages.Assembly.Basic
import TutorialPages.Assembly.Run
import TutorialPages.Assembly.Step
import TutorialPages.Diagnostic.Location
import TutorialPages.Diagnostic.Problem
import TutorialPages.Diagnostic.Warning
import TutorialPages.Directive.Basic
import TutorialPages.Directive.Keyword
import TutorialPages.Directive.Reader
import TutorialPages.Directive.Vocabulary
import TutorialPages.Fence
import TutorialPages.Files.Catalogue
import TutorialPages.Files.Folder
import TutorialPages.Files.Path
import TutorialPages.Files.Source
import TutorialPages.HeadingAnchor
import TutorialPages.Image
import TutorialPages.Json.Printer
import TutorialPages.Json.Value
import TutorialPages.Markdown.Autolink
import TutorialPages.Markdown.Character
import TutorialPages.Markdown.CodeSpan
import TutorialPages.Markdown.Cursor
import TutorialPages.Markdown.Dialect
import TutorialPages.Markdown.Emphasis
import TutorialPages.Markdown.Html
import TutorialPages.Markdown.HtmlBlock
import TutorialPages.Markdown.HtmlTag
import TutorialPages.Markdown.Inline
import TutorialPages.Markdown.InlineReader
import TutorialPages.Markdown.InlineWriter
import TutorialPages.Markdown.Label
import TutorialPages.Markdown.LiteralLink
import TutorialPages.Markdown.NamedReference.LowerAToE
import TutorialPages.Markdown.NamedReference.LowerFToL
import TutorialPages.Markdown.NamedReference.LowerMToR
import TutorialPages.Markdown.NamedReference.LowerSToZ
import TutorialPages.Markdown.NamedReference.UpperAToI
import TutorialPages.Markdown.NamedReference.UpperJToZ
import TutorialPages.Markdown.Outline.Basic
import TutorialPages.Markdown.Outline.Container
import TutorialPages.Markdown.Outline.LeafReader
import TutorialPages.Markdown.Outline.LineStart
import TutorialPages.Markdown.Outline.Lists
import TutorialPages.Markdown.Outline.Prose
import TutorialPages.Markdown.Outline.Reader
import TutorialPages.Markdown.Outline.Tables
import TutorialPages.Markdown.Outline.Writer
import TutorialPages.Markdown.Passage
import TutorialPages.Markdown.Punctuation
import TutorialPages.Markdown.Reference
import TutorialPages.Markdown.Renderer
import TutorialPages.Markdown.Sheet
import TutorialPages.Markdown.Table
import TutorialPages.Markdown.Target
import TutorialPages.Page.Basic
import TutorialPages.Page.Draft
import TutorialPages.Page.Encoding
import TutorialPages.Proofs.Assembly.Embedding
import TutorialPages.Proofs.Assembly.Failing
import TutorialPages.Proofs.Assembly.ImageLine
import TutorialPages.Proofs.Assembly.Logging
import TutorialPages.Proofs.Assembly.OpenPage
import TutorialPages.Proofs.Assembly.Passable
import TutorialPages.Proofs.Assembly.Reached
import TutorialPages.Proofs.Assembly.Reading
import TutorialPages.Proofs.Assembly.Refusal
import TutorialPages.Proofs.Assembly.Relocation
import TutorialPages.Proofs.Assembly.Rendering
import TutorialPages.Proofs.Assembly.Renumber
import TutorialPages.Proofs.Assembly.Shift
import TutorialPages.Proofs.Assembly.Sound
import TutorialPages.Proofs.Assembly.Success
import TutorialPages.Proofs.Directive.Condition
import TutorialPages.Proofs.Directive.Marker
import TutorialPages.Proofs.Directive.Printed
import TutorialPages.Proofs.Directive.Refusal
import TutorialPages.Proofs.Directive.Respelling
import TutorialPages.Proofs.Directive.Suggestion
import TutorialPages.Proofs.Directive.Vocabulary
import TutorialPages.Proofs.Directive.Wording
import TutorialPages.Proofs.Document.BlankLine
import TutorialPages.Proofs.Document.Compiled
import TutorialPages.Proofs.Document.Concatenation
import TutorialPages.Proofs.Document.ExplicitEnds
import TutorialPages.Proofs.Document.FirstFailure
import TutorialPages.Proofs.Document.Grouped
import TutorialPages.Proofs.Document.Grouping
import TutorialPages.Proofs.Document.LineEndings
import TutorialPages.Proofs.Document.Logs
import TutorialPages.Proofs.Document.Options
import TutorialPages.Proofs.Document.Plain
import TutorialPages.Proofs.Document.Reading
import TutorialPages.Proofs.Document.Refused
import TutorialPages.Proofs.Document.Rendering
import TutorialPages.Proofs.Document.Reordering
import TutorialPages.Proofs.Document.TextFirst
import TutorialPages.Proofs.Document.Warnings
import TutorialPages.Proofs.Fence.Bytes
import TutorialPages.Proofs.Fence.Line
import TutorialPages.Proofs.Fence.Markdown
import TutorialPages.Proofs.Fence.Tracking
import TutorialPages.Proofs.Files.Reading
import TutorialPages.Proofs.Image
import TutorialPages.Proofs.Json.Indentation
import TutorialPages.Proofs.Json.Reader
import TutorialPages.Proofs.Json.Token
import TutorialPages.Proofs.Layout.ExplicitEnds
import TutorialPages.Proofs.Layout.Fragment
import TutorialPages.Proofs.Layout.PageBody
import TutorialPages.Proofs.Layout.PageText
import TutorialPages.Proofs.Layout.Place
import TutorialPages.Proofs.Layout.Progress
import TutorialPages.Proofs.Layout.Reading
import TutorialPages.Proofs.Layout.Warnings
import TutorialPages.Proofs.Markdown.Anchor
import TutorialPages.Proofs.Markdown.SyntaxTree
import TutorialPages.Proofs.Page.Decoding
import TutorialPages.Proofs.Page.Draft
import TutorialPages.Proofs.Page.Indentation
import TutorialPages.Proofs.Slug
import TutorialPages.Proofs.Text.Base64
import TutorialPages.Proofs.Text.Integer
import TutorialPages.Proofs.Text.LetterCase
import TutorialPages.Proofs.Text.Lines
import TutorialPages.Proofs.Text.Lowercase
import TutorialPages.Proofs.Text.Search
import TutorialPages.Proofs.Text.Trimming
import TutorialPages.Proofs.Text.Utf8
import TutorialPages.Proofs.Text.Words
import TutorialPages.Proofs.Traced
import TutorialPages.Renderer
import TutorialPages.Slug
import TutorialPages.Text.Base64
import TutorialPages.Text.Basic
import TutorialPages.Text.Blank
import TutorialPages.Text.CaseTable
import TutorialPages.Text.Integer
import TutorialPages.Text.LetterCase
import TutorialPages.Text.Lines
import TutorialPages.Traced
