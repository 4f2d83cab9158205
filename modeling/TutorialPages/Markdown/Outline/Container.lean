import TutorialPages.Markdown.Dialect
import TutorialPages.Markdown.Outline.Basic

/-!
# Containers

A container is an enclosure that is open while lines are read. It goes on with a line that has its
mark or its indentation, and a line may begin new ones.
-/

namespace TutorialPages.Markdown

/-- An open enclosure. -/
structure Container where
  enclosure : Enclosure
  /-- The columns by which the later lines of an item have to be indented. -/
  width : Nat
  /-- Whether it is an item that began with a blank line and holds nothing yet. -/
  blankStart : Bool
  deriving DecidableEq, Repr

namespace Container

/-- A container that is no item. -/
def plain (enclosure : Enclosure) : Container :=
  ⟨enclosure, 0, false⟩

/-- What has been found at the front of a line: marks, and what is left behind them. -/
structure Found (α : Type) where
  value : α
  marks : List Entry
  cursor : Cursor

/-- The entry for indentation that is taken. -/
def spaces (cursor : Cursor) : List Entry :=
  if cursor.atSpace then [.space] else []

/-- Takes a number of columns of indentation. -/
def indented (container : Container) (columns : Nat) (cursor : Cursor) : Found Container :=
  ⟨{ container with blankStart := false }, spaces cursor, cursor.skip columns⟩

/-- Takes the mark of a quotation, with one column behind it if there is a space. -/
def quoteMark? (cursor : Cursor) : Option Cursor :=
  let inner := cursor.skipAll
  if maxIndent < cursor.indent then none
  else match inner.rest with
    | '>' :: _ => some ((inner.advance 1).skip 1)
    | _ => none

/-- How a container goes on with a line, if it does. -/
def continue? (cursor : Cursor) (container : Container) : Option (Found Container) :=
  match container.enclosure with
  | .quote => (quoteMark? cursor).map fun inner =>
    ⟨container, spaces cursor ++ [.quoteMark], inner⟩
  | .item .. =>
    if cursor.isBlankLine then
      if container.blankStart then none else some (container.indented container.width cursor)
    else if cursor.indent < container.width then none
    else some (container.indented container.width cursor)
  | .footnote _ =>
    if cursor.isBlankLine || tabSize ≤ cursor.indent then some (container.indented tabSize cursor)
    else none

/-- Whether a line is a thematic break: at least three equal marks and nothing but spaces. -/
def isThematicBreak (text : Text) : Bool :=
  match text.filter fun c => !isSpace c with
  | mark :: rest =>
    (mark == '*' || mark == '-' || mark == '_') && rest.all (· == mark) && 2 ≤ rest.length
  | [] => false

/-- The mark of an item with its number, and the number of characters that they take up. Below an
open paragraph, only the number one may begin a list. -/
def itemMark? (interrupts : Bool) (text : Text) : Option (Char × Nat × Nat) :=
  match text with
  | [] => none
  | c :: _ =>
    if c = '+' then some (c, 0, 1)
    else if c = '*' ∨ c = '-' then
      if isThematicBreak text then none else some (c, 0, 1)
    else
      let digits := text.takeWhile Char.isDigit
      let number := Reference.digitsValue 10 digits
      if digits = [] ∨ 9 < digits.length ∨ interrupts ∧ digits ≠ ['1'] then none
      else match text.drop digits.length with
        | mark :: _ =>
          if mark = '.' ∨ mark = ')' then some (mark, number, digits.length + 1) else none
        | [] => none

/-- The item that a line with the given ending begins. When nothing follows its mark, the width of
the item reaches up to the last character of the ending. -/
def item? (interrupts : Bool) (ending : Text) (cursor : Cursor) : Option (Found Container) := do
  let inner := cursor.skipAll
  let (mark, number, length) ← itemMark? interrupts inner.rest
  let after := inner.advance length
  let item := Enclosure.item mark number
  if after.isBlankLine then
    if interrupts then none
    else
      let reached := if after.rest = [] then ending.length - 1 else 0
      some ⟨⟨item, cursor.lengthTo after + reached + 1, true⟩, [.enter item], after⟩
  else if after.indent = 0 then none
  else
    let after := after.skip (if tabSize < after.indent then 1 else after.indent)
    some ⟨⟨item, cursor.lengthTo after, false⟩, [.enter item], after⟩

/-- The label of a footnote and what follows its closing bracket. -/
def footnoteLabel? : Text → Option (Text × Text)
  | [] => none
  | ']' :: rest => some ([], rest)
  | '\\' :: c :: rest =>
    if c = '[' ∨ c = ']' ∨ c = '\\' then
      (footnoteLabel? rest).map fun (label, after) => ('\\' :: c :: label, after)
    else if isGap c then none
    else (footnoteLabel? (c :: rest)).map fun (label, after) => ('\\' :: label, after)
  | c :: rest =>
    if isGap c ∨ c = '[' then none
    else (footnoteLabel? rest).map fun (label, after) => (c :: label, after)

/-- The footnote that a line begins. -/
def footnote? (cursor : Cursor) : Option (Found Container) := do
  let inner := cursor.skipAll
  match inner.rest with
  | '[' :: '^' :: rest =>
    let (label, after) ← footnoteLabel? rest
    match after with
    | ':' :: after =>
      if label = [] ∨ Label.limit < Text.utf8Length label then none
      else
        let inner := inner.advance (inner.rest.length - after.length)
        let footnote := Enclosure.footnote label
        some ⟨.plain footnote, [.enter footnote], inner.skipAll⟩
    | _ => none
  | _ => none

/-- The quotation that a line begins. -/
def quote? (cursor : Cursor) : Option (Found Container) :=
  (quoteMark? cursor).map fun inner => ⟨.plain .quote, [.enter .quote], inner⟩

/-- The container that a line with the given ending begins. -/
def start? (dialect : Dialect) (interrupts : Bool) (ending : Text) (cursor : Cursor) :
    Option (Found Container) :=
  if maxIndent < cursor.indent then none
  else quote? cursor <|> item? interrupts ending cursor <|>
    if dialect.gfm then footnote? cursor else none

end Container

end TutorialPages.Markdown
