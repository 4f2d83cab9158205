import TutorialPages.Files.Source

/-!
# Catalogues

A catalogue is a file source held in memory. It lists paths with what reading them gives. Paths are
compared as they are written, and a path that is not listed is not found.
-/

namespace TutorialPages

/-- Paths with the outcome of reading them. -/
abbrev Catalogue := List (Path × Except ReadFailure (List UInt8))

namespace Catalogue

/-- The outcome of reading a path. -/
def read (catalogue : Catalogue) (path : Path) : Except ReadFailure (List UInt8) :=
  match catalogue.lookup path with
  | some outcome => outcome
  | none => .error ⟨.notFound, path ++ " not found"⟩

/-- The catalogue as a file source. -/
def source (catalogue : Catalogue) : FileSource :=
  .ofBytes catalogue.read

end Catalogue

end TutorialPages
