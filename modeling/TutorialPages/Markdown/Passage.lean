import TutorialPages.Markdown.Cursor

/-!
# Passages

A passage is the text of a paragraph, a heading or a cell, as it stands in the document: a number of
lines, none of which has to begin at the beginning of a line of the document. The marks of
containers that stand before it on a line do not belong to it, but emphasis and labels see them.
-/

namespace TutorialPages.Markdown

/-- A line of a passage. -/
structure TextLine where
  /-- What stands before it on its line of the document. -/
  before : Text
  text : Text
  /-- When the line begins inside a tab, the last character of its indentation. That tab is no part
  of the text. -/
  torn : Option Char
  /-- The ending of the line, when another line follows. -/
  ending : Text
  deriving DecidableEq, Repr

/-- Some lines of text, and the character that follows them on the last line. -/
structure Passage where
  lines : List TextLine
  next : Option Char
  deriving DecidableEq, Repr

namespace TextLine

/-- The rest of a line from a cursor on, without its ending. -/
def ofCursor (line : Line) (cursor : Cursor) : TextLine where
  before := line.text.take (line.text.length - cursor.whole.length)
  text := cursor.whole
  torn :=
    if cursor.taken = 0 then none else (cursor.rest.takeWhile isSpace).getLast?
  ending := []

/-- A part of a line. -/
def ofPart (before text : Text) : TextLine :=
  ⟨before, text, none, []⟩

/-- The characters of the line with its ending. -/
def characters (line : TextLine) : Text :=
  line.text ++ line.ending

end TextLine

namespace Passage

/-- The passage of lines that a line of the document ends. -/
def ofLines (lines : List TextLine) : Passage :=
  ⟨lines, none⟩

/-- A passage within one line, between two neighbours. -/
def within (before : Text) (text : Text) (next : Option Char) : Passage :=
  ⟨[.ofPart before text], next⟩

/-- The text of a passage. -/
def text (passage : Passage) : Text :=
  passage.lines.flatMap TextLine.characters

/-- Whether nothing is torn off before the text of a passage. -/
def startsWhole (passage : Passage) : Bool :=
  passage.lines.head?.all fun line => line.torn.isNone

/-- The column in which a passage begins. -/
def column (passage : Passage) : Nat :=
  (passage.lines.head?.map fun line => Cursor.columnAfter 0 line.before).getD 0

/-- The lines of a passage with the number of characters that are left of it at the beginning of
each. -/
def starts : List TextLine → List (Nat × TextLine)
  | [] => []
  | line :: others =>
    let below := starts others
    let left := (below.head?.map Prod.fst).getD 0
    (line.characters.length + left, line) :: below

/-- A part of a passage as it stands in the document, with the marks of containers in it, given the
beginnings of the lines and the number of characters that are left of the passage where the part
begins. -/
def written (starts : List (Nat × TextLine)) : Nat → Text → Text
  | _, [] => []
  | left, c :: rest =>
    let marks := match starts.lookup (left - 1) with
      | some line => line.before
      | none => []
    c :: marks ++ written starts (left - 1) rest

end Passage

end TutorialPages.Markdown
