import TutorialPages.Text.Basic

/-!
# Locations

A diagnostic points at a line of the document, counted from one, and names the document when it
has a name.
-/

namespace TutorialPages

/-- A line of a document. -/
structure Location where
  file : Option Text
  line : Nat
  deriving DecidableEq, Repr

/-- How a location is written. -/
def Location.text (location : Location) : Text :=
  match location.file with
  | some file => file ++ ':' :: Text.ofNat location.line
  | none => Text.join ["line ", Text.ofNat location.line]

end TutorialPages
