/-!
# Dialects

Which kinds of Markdown are read.
-/

namespace TutorialPages.Markdown

/-- The parts of Markdown that may be left out. -/
structure Dialect where
  /-- Tables, footnotes, strikethrough, literal links and checkboxes. -/
  gfm : Bool
  /-- HTML. -/
  html : Bool
  deriving DecidableEq, Repr

end TutorialPages.Markdown
