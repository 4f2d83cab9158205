import TutorialPages.Assembly.Basic
import TutorialPages.HeadingAnchor
import TutorialPages.Markdown.Outline.Writer

/-!
# Rendering Markdown

The renderer that a document is compiled with: a fragment is read as Markdown, in the dialect that
the options choose, and written as HTML. It refuses nothing.
-/

namespace TutorialPages.Markdown

/-- The dialect that options choose. -/
def Dialect.ofOptions (options : RenderOptions) : Dialect :=
  ⟨options.gfm, options.rawHtml⟩

/-- The HTML of a fragment. -/
def toHtml (dialect : Dialect) (fragment : Text) : Text :=
  let outline := Outline.read dialect fragment
  outline.write (.ofOutline dialect fragment outline)

namespace Inline

mutual

/-- What an inline adds to the text of a heading. -/
def phrases : Inline → List Phrase
  | .text value | .decoded value => [.text value]
  | .ending raw => [.text raw]
  | .code value => [.code value]
  | .stressed _ children | .link _ children => [.group (allPhrases children)]
  | .autolink _ value | .literalLink _ value => [.group [.text value]]
  | .hardBreak | .html _ | .image .. | .footnoteCall _ => []

/-- What inlines add to the text of a heading. The line ending behind a break adds nothing. -/
def allPhrases : List Inline → List Phrase
  | [] => []
  | .hardBreak :: .ending _ :: rest => allPhrases rest
  | inline :: rest => phrases inline ++ allPhrases rest

end

end Inline

/-- The heading that an outline begins with. Space before it does not count. -/
def leadingHeading? (context : BlockContext) : Outline → Option LeadingHeading
  | .heading depth text :: _ =>
    some ⟨depth, Inline.allPhrases (InlineReader.read (context.inlines false text) text.text)⟩
  | entry :: rest => if entry.isGap then leadingHeading? context rest else none
  | [] => none

/-- The heading that a fragment begins with. -/
def leadingHeadingOf (dialect : Dialect) (fragment : Text) : Option LeadingHeading :=
  let outline := Outline.read dialect fragment
  leadingHeading? (.ofOutline dialect fragment outline) outline

/-- The HTML of a fragment with the anchor of its heading, if the options ask for one. -/
def render (options : RenderOptions) (fragment : Text) : Text :=
  let dialect := Dialect.ofOptions options
  let html := toHtml dialect fragment
  if options.headingIds then anchorHeading (leadingHeadingOf dialect fragment) html else html

/-- The renderer that options choose. -/
def renderer (options : RenderOptions) : Renderer :=
  fun fragment => .ok (render options fragment)

end TutorialPages.Markdown
