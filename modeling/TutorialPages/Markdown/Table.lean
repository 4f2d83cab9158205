import TutorialPages.Markdown.Passage

/-!
# Rows of a table

The cells of a row stand between bars; a bar before the first cell and one after the last may be
there or not, and a bar after a backslash belongs to its cell. The row below the header says how the
columns are aligned, and only a row with as many columns makes a header of the line above it.
-/

namespace TutorialPages.Markdown

/-- How a column is aligned. -/
inductive Alignment where
  | none
  | left
  | center
  | right
  deriving DecidableEq, Repr

namespace Table

/-- Drops the spaces and tabs at both ends. -/
def trimSpaces (text : Text) : Text :=
  ((text.dropWhile isSpace).reverse.dropWhile isSpace).reverse

/-- Cuts a text at its bars. -/
def splitBars : Text → List Text
  | [] => [[]]
  | '\\' :: c :: rest =>
    if c = '\\' ∨ c = '|' then extend ['\\', c] (splitBars rest)
    else extend ['\\'] (splitBars (c :: rest))
  | '|' :: rest => [] :: splitBars rest
  | c :: rest => extend [c] (splitBars rest)
where
  /-- Puts characters before the first piece. -/
  extend (characters : Text) : List Text → List Text
    | [] => [characters]
    | piece :: others => (characters ++ piece) :: others

/-- The piece between two bars as the text of a cell. -/
def cell (before : Text) (piece : Text) (next : Option Char) : Passage :=
  let indent := piece.takeWhile isSpace
  let text := trimSpaces piece
  let after := piece.drop (indent.length + text.length)
  .within (before ++ indent) text (after.head? <|> next)

/-- The pieces of a row as texts of cells; the first one comes after the given text. -/
def cellsOf (before : Text) : List Text → List Passage
  | [] => []
  | [piece] => [cell before piece none]
  | piece :: others => cell before piece (some '|') :: cellsOf ['|'] others

/-- Whether nothing stands in a cell. -/
def isEmptyCell (passage : Passage) : Bool :=
  passage.text.isEmpty

/-- Drops the first piece of a row if it is empty and not the only one. -/
def dropEmptyFirst : List Passage → List Passage
  | first :: second :: others =>
    if isEmptyCell first then second :: others else first :: second :: others
  | pieces => pieces

/-- The cells of a row. -/
def cells (line : TextLine) : List Passage :=
  let pieces := dropEmptyFirst (cellsOf line.before (splitBars line.text))
  (dropEmptyFirst pieces.reverse).reverse

/-! ## Headers -/

/-- How far the counting of the cells of a header has come. -/
structure Count where
  /-- Whether the next mark begins another cell. -/
  awaits : Bool
  cells : Nat
  deriving DecidableEq, Repr

/-- Nothing has been counted. -/
def Count.zero : Count := ⟨false, 0⟩

/-- Counts the cells of a line, and the marks in it: each bar and each word is one mark. `inWord`
says whether the character before belongs to a word, and `escaped` whether it is a backslash that
may keep a bar from counting. -/
def countCells (count : Count) (marks : Nat) (inWord escaped : Bool) : Text → Count × Nat
  | [] => (count, marks)
  | c :: rest =>
    if isSpace c then countCells count marks false false rest
    else if escaped && (c == '\\' || c == '|') then countCells count marks true false rest
    else if inWord && c != '|' then countCells count marks true (c == '\\') rest
    else
      let cells := if count.awaits then count.cells + 1 else count.cells
      if c = '|' then countCells ⟨true, cells⟩ (marks + 1) false false rest
      else countCells ⟨false, cells⟩ (marks + 1) true (c == '\\') rest

/-- Counts the cells of a line that may be the header of a table, which it may if there is more in
it than a single bar. -/
def header? (count : Count) (text : Text) : Count × Bool :=
  let text := text.dropWhile isSpace
  let (count, marks) :=
    if text.head? = some '|' then countCells count 0 false false text
    else countCells { count with awaits := true } 1 false false text
  (count, 1 < marks)

/-- The alignment that one cell below the header states: hyphens, with a colon at either end. -/
def alignment? (cell : Text) : Option Alignment :=
  let left := cell.head? == some ':'
  let cell := if left then cell.drop 1 else cell
  let hyphens := cell.takeWhile (· == '-')
  if hyphens = [] then none
  else match cell.drop hyphens.length with
    | [] => some (if left then .left else .none)
    | [':'] => some (if left then .center else .right)
    | _ => none

/-- The alignments that the row below the header states. A row without bar and colon states
none. -/
def alignments? (row : Text) : Option (List Alignment) :=
  if row.all fun c => c != '|' && c != ':' then none
  else (cells (.ofPart [] row)).mapM fun cell => alignment? cell.text

end Table

end TutorialPages.Markdown
