import TutorialPages.Markdown.Table
import TutorialPages.Markdown.Target

/-!
# Outlines

The outline of a document is what one meets on the way from its beginning to its end: blocks that
open and close around others, blocks that hold text, and the endings of lines. It is a list and not
a tree, because what a table or a list opens need not be closed in the opposite order.

Text is kept as it is written; it is read once all definitions are known.
-/

namespace TutorialPages.Markdown

/-- A block that goes on from line to line by marks or by indentation. -/
inductive Enclosure where
  /-- A quotation. -/
  | quote
  /-- An item of a list, with its mark and its number. -/
  | item (mark : Char) (number : Nat)
  /-- The definition of a footnote. -/
  | footnote (label : Text)
  deriving DecidableEq, Repr

/-- A part of an outline. -/
inductive Entry where
  /-- An enclosure begins, with its mark. -/
  | enter (enclosure : Enclosure)
  /-- An enclosure ends. -/
  | leave (enclosure : Enclosure)
  /-- The mark of a quotation on a later line. -/
  | quoteMark
  /-- Spaces and tabs that belong to no text. -/
  | space
  /-- The ending of a line that holds something. -/
  | ending (raw : Text)
  /-- The ending of a blank line. -/
  | blankEnding (raw : Text)
  /-- A list begins, with the number of its first item. -/
  | enterList (isOrdered : Bool) (number : Nat)
  /-- A list ends. -/
  | leaveList (isOrdered : Bool)
  /-- A line of text that belongs to a paragraph or to definitions. -/
  | line (line : TextLine)
  /-- A line that makes a heading of the paragraph above it. -/
  | underline (depth : Nat) (line : TextLine)
  /-- A paragraph. -/
  | paragraph (passage : Passage)
  /-- A heading of a depth from one to six. -/
  | heading (depth : Nat) (passage : Passage)
  /-- The definition of a label. -/
  | definition (definition : Definition)
  /-- A thematic break. -/
  | thematicBreak
  /-- Code begins; code between fences has the info of the opening one. -/
  | enterCode (info : Option Text)
  /-- A line of code. -/
  | code (text : Text)
  /-- The closing fence. -/
  | closingFence
  /-- Code ends. -/
  | leaveCode
  /-- HTML that is passed through begins. -/
  | enterHtml
  /-- A line of HTML. -/
  | html (text : Text)
  /-- HTML ends. -/
  | leaveHtml
  /-- A table begins. -/
  | enterTable (alignments : List Alignment)
  /-- The header of a table begins with its cells. -/
  | header (cells : List Passage)
  /-- The header of a table ends. -/
  | leaveHeader
  /-- The body of a table begins. -/
  | enterBody
  /-- A row of the body of a table. -/
  | row (cells : List Passage)
  /-- The body of a table ends. -/
  | leaveBody
  /-- A table ends. -/
  | leaveTable

/-- What one meets in a document, in order. -/
abbrev Outline := List Entry

namespace Entry

/-- Whether the entry is space between blocks: it neither is a block nor a part of one. -/
def isGap : Entry → Bool
  | .space | .quoteMark | .ending _ | .blankEnding _ => true
  | _ => false

/-- Whether the entry is the ending of a line. -/
def isEnding : Entry → Bool
  | .ending _ | .blankEnding _ => true
  | _ => false

end Entry

end TutorialPages.Markdown
