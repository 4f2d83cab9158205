import TutorialPages.Diagnostic.Warning
import TutorialPages.Fence
import TutorialPages.Page.Draft
import TutorialPages.Renderer

/-!
# The state of an assembly

Pages are assembled line by line. Between two lines it is known which page is open, which of its
lines wait for the end of a fenced block, which pages are finished and what has been warned about.
-/

namespace TutorialPages

/-- How Markdown is rendered. -/
structure RenderOptions where
  /-- Whether the extensions of GitHub are read. -/
  gfm : Bool := true
  /-- Whether HTML in the text is passed through. -/
  rawHtml : Bool := true
  /-- Whether headings get anchors. -/
  headingIds : Bool := true
  deriving DecidableEq, Repr

/-- How a document is compiled. -/
structure Options where
  render : RenderOptions := {}
  /-- Whether a page that is still open at the end is closed instead of refused. -/
  allowUnterminatedPage : Bool := true
  /-- Whether a fenced block is rendered as one fragment. -/
  groupCodeFences : Bool := false
  /-- The name of the document in diagnostics. -/
  fileName : Option Text := none
  deriving DecidableEq, Repr

/-- What a document is compiled with. -/
structure Setting where
  /-- Where the files that the document refers to are looked up. -/
  base : Path
  options : Options
  renderer : Renderer
  files : FileSource

/-- The lines of a fenced block that has not ended yet. -/
structure PendingFence where
  /-- The line of the opening fence. -/
  openedAt : Nat
  marker : Char
  /-- The lines so far with line feeds between them. -/
  source : Text
  deriving DecidableEq, Repr

/-- The page that is open. -/
structure OpenPage where
  draft : Draft
  tracker : FenceTracker
  pending : Option PendingFence
  deriving DecidableEq, Repr

/-- What is known between two lines. -/
structure Assembly where
  /-- The open page, if one is open. -/
  current : Option OpenPage
  /-- The finished pages. -/
  pages : List Page
  warnings : List Warning
  deriving DecidableEq, Repr

namespace Assembly

/-- Nothing is known before the first line. -/
def start : Assembly := ⟨none, [], []⟩

end Assembly

/-- The page opened on a line. -/
def OpenPage.start (line : Nat) : OpenPage :=
  ⟨.start line, .start, none⟩

end TutorialPages
