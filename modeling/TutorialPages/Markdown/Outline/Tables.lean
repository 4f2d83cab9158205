import TutorialPages.Markdown.Outline.Basic

/-!
# The ends of tables

A table ends with the last row that belongs to it, whatever may begin or end between its rows.
-/

namespace TutorialPages.Markdown.Outline

/-- What comes next of tables. -/
inductive NextOfTable where
  /-- Another table, or nothing. -/
  | header
  /-- A row of the same table. -/
  | row
  deriving DecidableEq, Repr

/-- Ends the tables of an outline, and says what it begins with of tables. -/
def endTables : Outline → NextOfTable × Outline
  | [] => (.header, [])
  | entry :: rest =>
    let (next, rest) := endTables rest
    match entry with
    | .header cells => (.header, .header cells :: rest)
    | .leaveHeader =>
      (next, if next = .row then .leaveHeader :: rest else .leaveHeader :: .leaveTable :: rest)
    | .row cells =>
      (.row, if next = .row then .row cells :: rest
        else .row cells :: .leaveBody :: .leaveTable :: rest)
    | entry => (next, entry :: rest)

/-- The outline with the ends of its tables. -/
def withTableEnds (outline : Outline) : Outline :=
  (endTables outline).2

end TutorialPages.Markdown.Outline
