import TutorialPages.Text.Basic

/-!
# Paths

A path is a text with `/` between its parts. A name is looked up below a base path, unless the name
is absolute.
-/

namespace TutorialPages

/-- A path, as it is written. -/
abbrev Path := Text

namespace Path

/-- The path of `name` below `base`: an absolute name stands for itself, and one slash comes
between the two unless the base is empty or already ends in one. -/
def below (base name : Path) : Path :=
  if name.head? = some '/' then name
  else if base = [] ∨ base.getLast? = some '/' then base ++ name
  else base ++ '/' :: name

end Path

end TutorialPages
