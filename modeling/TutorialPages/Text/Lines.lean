import TutorialPages.Text.Basic

/-!
# Lines

A line ends at a line feed, and one carriage return right before that line feed belongs to the
ending. A carriage return anywhere else is part of its line. A line feed at the very end of the text
does not start another line.
-/

namespace TutorialPages.Text

/-- The lines of a text without their endings. -/
def lines : Text → List Text
  | [] => []
  | '\n' :: rest => [] :: lines rest
  | '\r' :: '\n' :: rest => [] :: lines rest
  | c :: rest =>
    match lines rest with
    | [] => [[c]]
    | line :: others => (c :: line) :: others

end TutorialPages.Text
