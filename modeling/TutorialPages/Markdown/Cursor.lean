import TutorialPages.Markdown.Character

/-!
# Lines and columns

A document is cut into lines, each with the ending that follows it. Indentation is counted in
columns, where a tab reaches the next multiple of four. A cursor is the rest of a line together with
the column it starts at; it may stand inside a tab of which some columns have been taken.
-/

namespace TutorialPages.Markdown

/-- A line and its ending, which is empty on a last line without one. -/
structure Line where
  text : Text
  ending : Text
  deriving DecidableEq, Repr

namespace Line

/-- The lines of a text. An ending is a line feed, a carriage return, or both in that order. -/
def split : Text → List Line
  | [] => []
  | '\r' :: '\n' :: rest => ⟨[], ['\r', '\n']⟩ :: split rest
  | c :: rest =>
    if isEnding c then ⟨[], [c]⟩ :: split rest
    else match split rest with
      | [] => [⟨[c], []⟩]
      | line :: others => { line with text := c :: line.text } :: others

end Line

/-- The number of columns from one tab stop to the next. -/
def tabSize : Nat := 4

/-- The most columns that a block may be indented by. -/
def maxIndent : Nat := tabSize - 1

/-- The rest of a line from some column on. When `taken` is not zero, the rest begins with a tab of
which that many columns have been taken. -/
structure Cursor where
  column : Nat
  taken : Nat
  rest : Text
  deriving DecidableEq, Repr

namespace Cursor

/-- The beginning of a line. -/
def start (text : Text) : Cursor :=
  ⟨0, 0, text⟩

/-- The beginning of a document. The mark of its byte order is no part of the first line, but takes
up as many columns as it has bytes. -/
def startDocument : Text → Cursor
  | '\uFEFF' :: rest => ⟨Text.utf8Length ['\uFEFF'], 0, rest⟩
  | text => start text

/-- Takes spaces and tabs at the front, at most `limit` columns of them. -/
def take (limit column taken : Nat) : Text → Cursor
  | ' ' :: rest =>
    if limit = 0 then ⟨column, 0, ' ' :: rest⟩ else take (limit - 1) (column + 1) 0 rest
  | '\t' :: rest =>
    let width := tabSize - column % tabSize
    if limit < width then ⟨column + limit, taken + limit, '\t' :: rest⟩
    else take (limit - width) (column + width) 0 rest
  | rest => ⟨column, 0, rest⟩

/-- The number of columns that the spaces and tabs at the front take up. -/
def columnsOf (column : Nat) : Text → Nat
  | ' ' :: rest => 1 + columnsOf (column + 1) rest
  | '\t' :: rest =>
    let width := tabSize - column % tabSize
    width + columnsOf (column + width) rest
  | _ => 0

/-- The column behind a text that begins in the given column. -/
def columnAfter (column : Nat) : Text → Nat
  | [] => column
  | '\t' :: rest => columnAfter (column + (tabSize - column % tabSize)) rest
  | c :: rest => columnAfter (column + Text.utf8Length [c]) rest

/-- The columns of indentation at the cursor. -/
def indent (cursor : Cursor) : Nat :=
  columnsOf cursor.column cursor.rest

/-- Takes at most the given number of columns of indentation. -/
def skip (limit : Nat) (cursor : Cursor) : Cursor :=
  take limit cursor.column cursor.taken cursor.rest

/-- Takes all indentation. -/
def skipAll (cursor : Cursor) : Cursor :=
  cursor.skip cursor.indent

/-- Whether nothing but spaces and tabs is left. -/
def isBlankLine (cursor : Cursor) : Bool :=
  cursor.rest.all isSpace

/-- Whether a space or a tab comes next. -/
def atSpace (cursor : Cursor) : Bool :=
  cursor.rest.head?.any isSpace

/-- Goes past a number of characters that are neither spaces nor tabs; each takes up as many columns
as it has bytes. -/
def advance (count : Nat) (cursor : Cursor) : Cursor :=
  ⟨cursor.column + Text.utf8Length (cursor.rest.take count), 0, cursor.rest.drop count⟩

/-- The rest of the line, without a tab of which columns have been taken. -/
def whole (cursor : Cursor) : Text :=
  cursor.rest.drop (min 1 cursor.taken)

/-- The rest of the line as code: spaces stand in for a tab of which columns have been taken, as
many as a tab stop has columns beyond those. -/
def code (cursor : Cursor) : Text :=
  if cursor.taken = 0 then cursor.rest
  else List.replicate (tabSize - cursor.taken) ' ' ++ cursor.whole

/-- The number of characters from one cursor to a later one on the same line: a tab that is taken in
part counts by its columns, any other as one. -/
def lengthTo (first second : Cursor) : Nat :=
  (if first.taken = 0 then 0 else tabSize - first.taken) +
    (first.whole.length - second.whole.length) + (second.taken - 1)

end Cursor

end TutorialPages.Markdown
