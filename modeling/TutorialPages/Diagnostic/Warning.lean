import TutorialPages.Diagnostic.Location

/-!
# Warnings

Findings that do not keep a document from being compiled.
-/

namespace TutorialPages

/-- A finding that is reported and passed over. -/
inductive Warning where
  /-- Text outside of any page was left out. -/
  | contentOutsidePage (location : Location)
  /-- A page started while the one opened on line `openedAt` was open; that one was closed. -/
  | nestedStartPage (location : Location) (openedAt : Nat)
  /-- The document ended inside the page opened at the location; the page was closed. -/
  | unterminatedPage (location : Location)
  /-- A fenced block opened at the location ended without its closer. -/
  | unclosedCodeFence (location : Location) (marker : Char)
  deriving DecidableEq, Repr

namespace Warning

/-- The line that a warning points at. -/
def location : Warning → Location
  | .contentOutsidePage location => location
  | .nestedStartPage location _ => location
  | .unterminatedPage location => location
  | .unclosedCodeFence location _ => location

/-- The words for a warning. -/
def message (warning : Warning) : Text :=
  Text.join <| warning.location.text ::
    match warning with
    | .contentOutsidePage _ => [": content outside of a page is ignored"]
    | .nestedStartPage _ openedAt =>
      [": START PAGE while the page opened on line ", Text.ofNat openedAt,
        " is still open, closing it"]
    | .unterminatedPage _ => [": page is never closed with END PAGE"]
    | .unclosedCodeFence _ marker =>
      [": code fence opened with ", [marker], " is never closed"]

end Warning

end TutorialPages
