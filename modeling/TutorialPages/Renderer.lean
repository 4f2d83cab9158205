import TutorialPages.Text.Basic

/-!
# Renderers

A renderer turns a fragment of a page, one line or one fenced block, into HTML. It sees each
fragment by itself and may refuse it.
-/

namespace TutorialPages

/-- Why a renderer refused a fragment. -/
structure RenderError where
  reason : Text
  deriving DecidableEq, Repr

/-- A function from a fragment to its HTML. -/
abbrev Renderer := Text → Except RenderError Text

end TutorialPages
