import TutorialPages.Fence
import TutorialPages.Markdown.HtmlBlock
import TutorialPages.Markdown.Outline.Container

/-!
# How leaves begin

A leaf is a block that holds no other blocks. Which one a line begins is seen from the line itself,
behind the marks of its containers, and from what stands before it. Each kind of leaf is tried in a
fixed order, and a line that begins nothing else is text.
-/

namespace TutorialPages.Markdown

/-- The leaf before a line, as far as the line asks for it. -/
inductive Preceding where
  /-- A line of text. -/
  | text
  /-- The underline of a heading. -/
  | underline
  /-- The header of a table. -/
  | header
  /-- A row of a table. -/
  | row
  /-- Anything else, or nothing. -/
  | other
  deriving DecidableEq, Repr

/-- What stands before a line and around it. -/
structure Situation where
  preceding : Preceding
  /-- Whether the line goes on below text, so that some leaves must not begin. -/
  interrupts : Bool
  /-- Whether the line misses marks of open containers. -/
  isLazy : Bool
  /-- Whether the line begins a container. -/
  isPierced : Bool
  deriving DecidableEq, Repr

/-- What a line begins. -/
inductive LineStart where
  /-- Nothing, for the line is blank. -/
  | blank
  /-- Code by its indentation. -/
  | indentedCode
  /-- Code between fences, with the columns before the opening one and its info. -/
  | fence (fence : Fence) (indent : Nat) (info : Text)
  /-- HTML, and whether it ends on the same line. -/
  | html (block : HtmlBlock) (isEnded : Bool)
  /-- A heading with its text. -/
  | heading (depth : Nat) (text : Passage)
  /-- The underline of a heading of the given depth. -/
  | underline (depth : Nat)
  /-- A thematic break. -/
  | thematicBreak
  /-- A row of the table above. -/
  | row
  /-- The header of a table, if the next line says so, and text otherwise. -/
  | header
  /-- Text. -/
  | plain
  deriving DecidableEq, Repr

namespace LineStart

/-- Drops the marks of a word that begins with number signs. -/
def dropMarks (text : Text) : Text :=
  text.dropWhile (· == '#')

/-- Drops spaces and the marks at the beginnings of words at the front of a heading's text, at most
`fuel` times. -/
def dropOpening : Nat → Text → Text
  | 0, text => text
  | fuel + 1, text =>
    let next := dropMarks (text.dropWhile isSpace)
    if next.length = text.length then text else dropOpening fuel next

/-- Drops marks at the front of a reversed text as long as a space follows them, at most `fuel`
times. -/
def dropAlone : Nat → Text → Text
  | 0, text => text
  | fuel + 1, text =>
    let next := dropMarks text
    if next.length = text.length then text
    else match next with
      | [] => []
      | c :: _ => if isSpace c then dropAlone fuel (next.dropWhile isSpace) else text

/-- Drops the closing marks of a heading that stand alone. -/
def dropClosing (text : Text) : Text :=
  (dropAlone text.length (text.reverse.dropWhile isSpace)).reverse

/-- The text of a heading, given what stands before its marks, and what follows them: it begins with
the first character that is neither a space nor a mark at the beginning of a word. -/
def headingText (before after : Text) : Passage :=
  let text := dropOpening after.length after
  .within (before ++ after.take (after.length - text.length)) (dropClosing text) none

/-- The heading that a line states, given the line without its indentation. Marks that have been
`counted` before are added to those of the line, of which there are at most six. -/
def heading? (counted : Nat) (text : Text) : Option (Nat × Passage) :=
  let depth := (text.takeWhile (· == '#')).length
  let after := text.drop depth
  if depth = 0 ∨ 6 < depth + counted then none
  else if after.head?.all isSpace then some (depth, headingText ['#'] after)
  else none

/-- The fence that a line opens with its info, given the line without its indentation. Marks that
have been `counted` before are added to those of the line, which have to be at least three. -/
def fence? (counted : Nat) (text : Text) : Option (Fence × Text) :=
  match text with
  | [] => none
  | mark :: _ =>
    let run := text.takeWhile (· == mark)
    let after := text.drop run.length
    let length := run.length + counted
    if (mark = '`' ∨ mark = '~') ∧ 3 ≤ length ∧ ¬(mark = '`' ∧ '`' ∈ after) then
      some (⟨mark, length⟩, (after.dropWhile isSpace).takeWhile fun c => !isSpace c)
    else none

/-- The depth of the heading that a line of equals signs or hyphens makes of the paragraph above
it. -/
def underline? (text : Text) : Option Nat :=
  match text with
  | mark :: _ =>
    if (mark = '=' ∨ mark = '-') ∧ (text.dropWhile (· == mark)).all isSpace then
      some (if mark = '=' then 1 else 2)
    else none
  | [] => none

/-- A kind of leaf that can be tried at the front of a line. -/
inductive Trial where
  | indentedCode
  | fence
  | html
  | heading
  | underline
  | thematicBreak
  | table
  deriving DecidableEq, Repr

/-- What trying a kind of leaf leads to. -/
inductive Outcome where
  /-- The line begins such a leaf. -/
  | found (start : LineStart)
  /-- It does not. -/
  | refused
  /-- It does not, but might if it went on. -/
  | unfinished

/-- Takes a result for an outcome. -/
def Outcome.ofOption : Option LineStart → Outcome
  | some start => .found start
  | none => .refused

/-- Whether a line is a thematic break, given the line without its indentation. Marks that have been
`counted` before are added to those of the line, which have to be at least three. -/
def attemptBreak (counted : Nat) (text : Text) : Outcome :=
  let marks := text.filter fun c => !isSpace c
  if marks.all (· == '*') || marks.all (· == '-') || marks.all (· == '_') then
    if 3 ≤ marks.length + counted then .found .thematicBreak else .unfinished
  else .refused

/-- Tries one kind of leaf. -/
def attempt (dialect : Dialect) (cursor : Cursor) (situation : Situation) (count : Table.Count)
    (trial : Trial) : Outcome :=
  let inner := cursor.skipAll
  let text := inner.rest
  match trial with
  | .indentedCode =>
    if !situation.interrupts && tabSize ≤ cursor.indent then .found .indentedCode else .refused
  | trial =>
    if maxIndent < cursor.indent then .refused
    else match trial with
    | .indentedCode => .refused
    | .fence =>
      match fence? count.cells text with
      | some (opened, info) => .found (.fence opened (cursor.lengthTo inner) info)
      | none =>
        if text.all (· == '`') || text.all (· == '~') then .unfinished else .refused
    | .html =>
      let mayBeComplete := !situation.interrupts || situation.isLazy
      if !dialect.html then .refused
      else match HtmlBlock.start mayBeComplete count.awaits count.cells text with
        | .begins block text => .found (.html block (block.endsIn text))
        | .refused => .refused
        | .unfinished => .unfinished
    | .heading =>
      .ofOption ((heading? count.cells text).map fun (depth, text) => .heading depth text)
    | .underline =>
      let isBelowText := situation.preceding = .text || situation.preceding = .underline
      if situation.isLazy || situation.isPierced || !isBelowText then .refused
      else .ofOption ((underline? text).map .underline)
    | .thematicBreak => attemptBreak count.cells text
    | .table =>
      let isBelowTable := situation.preceding = .header || situation.preceding = .row
      if !dialect.gfm then .refused
      else if situation.isPierced || !isBelowTable then .found .header
      else if situation.isLazy then .refused
      else .found .row

/-- What is left of a count when a kind of leaf has been tried. Counting marks brings the count of
cells to an end, and so does looking at a tag. -/
def countAfter (dialect : Dialect) (cursor : Cursor) (trial : Trial) (count : Table.Count) :
    Table.Count :=
  let text := cursor.skipAll.rest
  let counts (marks : Text) : Bool := text.head?.any marks.contains
  let ended : Table.Count := { count with cells := 0 }
  if maxIndent < cursor.indent then count
  else match trial with
    | .fence => if counts ['`', '~'] then ended else count
    | .html =>
      if !dialect.html then count
      else if HtmlBlock.namesTag text then { count with awaits := false }
      else if HtmlBlock.dataMark.isPrefixOf text then ended
      else count
    | .heading => if counts ['#'] then ended else count
    | .thematicBreak => if counts ['*', '-', '_'] then ended else count
    | .indentedCode | .underline | .table => count

/-- The kinds of leaves that are tried, in order. Some first characters leave few of them. -/
def trials (cursor : Cursor) : List Trial :=
  match cursor.rest with
  | '#' :: _ => [.heading]
  | '`' :: _ | '~' :: _ | '$' :: _ => [.fence]
  | '*' :: _ | '_' :: _ => [.thematicBreak]
  | 'e' :: _ | 'i' :: _ | '\x7b' :: _ => []
  | '<' :: _ => [.html, .heading, .underline, .thematicBreak, .table]
  | _ => [.indentedCode, .fence, .html, .heading, .underline, .thematicBreak, .table]

/-- What has been found out about a line. -/
structure Choice where
  start : LineStart
  /-- What is left of the count of cells. -/
  count : Table.Count
  /-- Whether the start was known only at the end of the document. -/
  isLate : Bool

/-- Tries kinds of leaves one after the other. When a line has no ending, a kind that might be found
if it went on is not given up before the end of the document, and then it no longer counts that the
line begins a container. -/
def choose (dialect : Dialect) (cursor : Cursor) (hasEnding : Bool) :
    Situation → Table.Count → List Trial → Choice
  | _, count, [] => ⟨.plain, count, false⟩
  | situation, count, trial :: others =>
    let next := countAfter dialect cursor trial count
    match attempt dialect cursor situation count trial with
    | .found start => ⟨start, next, false⟩
    | .refused => choose dialect cursor hasEnding situation next others
    | .unfinished =>
      if hasEnding then choose dialect cursor hasEnding situation next others
      else
        let choice := choose dialect cursor hasEnding { situation with isPierced := false } next
          others
        { choice with isLate := true }

/-- What a line begins. The last line of a document is never a header. -/
def of (dialect : Dialect) (cursor : Cursor) (hasEnding : Bool) (situation : Situation)
    (count : Table.Count) : Choice :=
  if cursor.isBlankLine then ⟨.blank, count, false⟩
  else
    let choice := choose dialect cursor hasEnding situation count (trials cursor)
    if choice.start = .header ∧ ¬hasEnding then { choice with start := .plain } else choice

end LineStart

end TutorialPages.Markdown
