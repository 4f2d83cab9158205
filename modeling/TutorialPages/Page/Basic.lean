import TutorialPages.Directive.Basic
import TutorialPages.Image

/-!
# Pages

A page holds what happens before its body, the body, and what is verified after it. A document is a
list of pages.
-/

namespace TutorialPages

/-- A finished page. -/
structure Page where
  /-- What runs before the body. -/
  preCommands : List PreCommand
  /-- The body as HTML. -/
  text : Text
  /-- What is verified after the body. -/
  postChecks : List PostCheck
  /-- The images of the body; absent when it refers to none. -/
  assets : Option (List Asset)
  deriving DecidableEq, Repr

namespace Page

/-- The page with nothing on it. -/
def blank : Page := ⟨[], [], [], none⟩

/-- Whether a page has neither command nor text nor check. Images alone do not count. -/
def isEmpty (page : Page) : Bool :=
  page.preCommands.isEmpty && page.text.isEmpty && page.postChecks.isEmpty

end Page

/-- The pages of a lesson in their order. -/
structure Document where
  pages : List Page
  deriving DecidableEq, Repr

end TutorialPages
