import TutorialPages.Markdown.Outline.LineStart

/-!
# Reading leaves

A leaf reader takes what the containers have left of each line and gives the entries of the leaves,
each with the number of the line that it belongs to. Some entries come late: whether a line is the
header of a table is known from the next one, and what comes after code may still belong to it.
-/

namespace TutorialPages.Markdown

/-- What the containers have left of a line. -/
structure Feed where
  number : Nat
  line : Line
  cursor : Cursor
  /-- Whether the line misses marks of open containers. -/
  isLazy : Bool
  /-- Whether the line begins a container. -/
  isPierced : Bool
  deriving DecidableEq, Repr

namespace Feed

/-- The line as text. -/
def textLine (feed : Feed) : TextLine :=
  .ofCursor feed.line feed.cursor

end Feed

/-- The ending of a line that has not found its place yet. -/
structure HeldEnding where
  number : Nat
  raw : Text
  deriving DecidableEq, Repr

/-- The leaf that may go on with the next line. -/
inductive Running where
  | none
  /-- A line that is the header of a table if the next line says so. -/
  | header (feed : Feed)
  /-- Code by its indentation with the ending of its last line. The blank lines after that, last one
  first, belong to the code if more of it follows. -/
  | indentedCode (ending : HeldEnding) (blanks : List Feed)
  /-- Code between fences with the ending of its last line. -/
  | fencedCode (fence : Fence) (indent : Nat) (ending : HeldEnding)
  /-- HTML with the ending of its last line. -/
  | html (block : HtmlBlock) (ending : HeldEnding)
  deriving DecidableEq, Repr

/-- What is known of leaves between two lines. -/
structure LeafReader where
  /-- The entries so far with the numbers of their lines, last one first. -/
  entries : List (Nat × Entry)
  running : Running
  preceding : Preceding
  /-- Whether the next line goes on below text. -/
  interrupts : Bool
  /-- Whether the last line missed marks of open containers. -/
  wasLazy : Bool
  /-- How far the counting of the cells of a header has come. What counts next goes on with a count
  that was not brought to an end. -/
  count : Table.Count

namespace LeafReader

/-- Nothing is known before the first line. -/
def start : LeafReader :=
  ⟨[], .none, .other, false, false, .zero⟩

/-- Whether containers cannot begin as long as the leaf goes on. -/
def isVerbatim (reader : LeafReader) : Bool :=
  match reader.running with
  | .fencedCode .. | .html .. => true
  | _ => false

/-- Whether the last line may be part of a paragraph. -/
def endsInText (reader : LeafReader) : Bool :=
  match reader.running with
  | .header _ => true
  | .none => reader.preceding = .text || reader.preceding = .underline
  | _ => false

/-- Gives entries of one line. -/
def emit (number : Nat) (entries : List Entry) (reader : LeafReader) : LeafReader :=
  { reader with
    entries := (entries.map fun entry => (number, entry)).reverse ++ reader.entries }

/-- The entry for the ending of a line. -/
def endingEntries (raw : Text) : List Entry :=
  if raw = [] then [] else [.ending raw]

/-- Gives the ending of a line that was held. -/
def release (ending : HeldEnding) (reader : LeafReader) : LeafReader :=
  reader.emit ending.number (endingEntries ending.raw)

/-- Says which leaf has come to its end, and whether the next line goes on below text. -/
def close (preceding : Preceding) (interrupts : Bool) (reader : LeafReader) : LeafReader :=
  { reader with running := .none, preceding, interrupts }

/-- Gives the entries of a leaf that takes up a line, and the ending of that line. -/
def emitLine (feed : Feed) (entries : List Entry) (preceding : Preceding) (interrupts : Bool)
    (reader : LeafReader) : LeafReader :=
  (reader.emit feed.number (entries ++ endingEntries feed.line.ending)).close preceding interrupts

/-- Takes a line as text. -/
def emitText (feed : Feed) (reader : LeafReader) : LeafReader :=
  reader.emitLine feed [.line feed.textLine] .text true

/-- The entries of a blank line. -/
def blankEntries (feed : Feed) : List Entry :=
  Container.spaces feed.cursor ++
    if feed.line.ending = [] then [] else [.blankEnding feed.line.ending]

/-- Takes a blank line. -/
def emitBlank (feed : Feed) (reader : LeafReader) : LeafReader :=
  (reader.emit feed.number (blankEntries feed)).close .other false

/-- The entry for a line of code or HTML, unless it is empty. -/
def contentEntries (entry : Text → Entry) (text : Text) : List Entry :=
  if text = [] then [] else [entry text]

/-- The ending of a line that has to wait. -/
def hold (feed : Feed) : HeldEnding :=
  ⟨feed.number, feed.line.ending⟩

/-- What stands before a line and around it. -/
def situation (feed : Feed) (reader : LeafReader) : Situation :=
  ⟨reader.preceding, reader.interrupts, feed.isLazy, feed.isPierced⟩

/-- Takes a line that may be the header of a table. -/
def beginHeader (feed : Feed) (reader : LeafReader) : LeafReader :=
  let (count, isHeader) := Table.header? reader.count feed.cursor.rest
  let reader := { reader with count }
  if isHeader then { reader with running := .header feed, interrupts := true }
  else reader.emitText feed

/-- Takes a line that nothing from the lines before goes on with. -/
def begin (dialect : Dialect) (feed : Feed) (reader : LeafReader) : LeafReader :=
  let choice := LineStart.of dialect feed.cursor (feed.line.ending ≠ []) (reader.situation feed)
    reader.count
  let reader := { reader with count := choice.count }
  match choice.start with
  | .blank => reader.emitBlank feed
  | .indentedCode =>
    let entries := .enterCode none :: contentEntries .code (feed.cursor.skip tabSize).code
    if feed.isLazy || feed.isPierced then
      reader.emitLine feed (entries ++ [.leaveCode]) .other false
    else { reader.emit feed.number entries with running := .indentedCode (hold feed) [] }
  | .fence fence indent info =>
    { reader.emit feed.number [.enterCode (some info)] with
      running := .fencedCode fence indent (hold feed) }
  | .html block isEnded =>
    let entries := .enterHtml :: contentEntries .html feed.cursor.whole
    if isEnded then reader.emitLine feed (entries ++ [.leaveHtml]) .other false
    else { reader.emit feed.number entries with running := .html block (hold feed) }
  | .heading depth text => reader.emitLine feed [.heading depth text] .other false
  | .underline depth =>
    reader.emitLine feed [.underline depth feed.textLine] .underline false
  | .thematicBreak => reader.emitLine feed [.thematicBreak] .other false
  | .row =>
    let row := Entry.row (Table.cells feed.textLine)
    let entries := if reader.preceding = .header then [.enterBody, row] else [row]
    reader.emitLine feed entries .row reader.interrupts
  | .header => reader.beginHeader feed
  | .plain =>
    let reader := reader.emitText feed
    if choice.isLate then { reader with preceding := .other } else reader

/-- Takes the line that was held as text after all. The count of its cells is brought to an end only
if the line below it has been looked at. -/
def settleHeader (header : Feed) (isLookedAt : Bool) (reader : LeafReader) : LeafReader :=
  ({ reader with
    count := if isLookedAt then .zero else { reader.count with cells := 0 } } : LeafReader).emitText
    header

/-- Takes a line as the one below the header of a table, if it is one. -/
def header? (header feed : Feed) (reader : LeafReader) : Option LeafReader := do
  let alignments ← Table.alignments? feed.cursor.skipAll.rest
  if feed.isLazy || feed.isPierced || maxIndent < feed.cursor.indent ||
      alignments.length ≠ reader.count.cells then none
  else
    let cells := Table.cells header.textLine
    let reader := reader.emit header.number
      ([.enterTable alignments, .header cells] ++ endingEntries header.line.ending)
    some ({ reader with count := .zero }.emitLine feed [.leaveHeader] .header false)

/-- Ends code or HTML whose last line has an ending that was held; that ending may belong to it. -/
def endHeld (entry : Entry) (takesEnding : Bool) (ending : HeldEnding) (reader : LeafReader) :
    LeafReader :=
  let ended := if takesEnding then (reader.release ending).emit ending.number [entry]
    else (reader.emit ending.number [entry]).release ending
  ended.close .other false

/-- Ends indented code; the blank lines after it do not belong to it. -/
def settleCode (ending : HeldEnding) (blanks : List Feed) (reader : LeafReader) : LeafReader :=
  blanks.foldr emitBlank (reader.endHeld .leaveCode false ending)

/-- Goes on with indented code, to which the blank lines held so far belong, too. -/
def extendCode (ending : HeldEnding) (blanks : List Feed) (feed : Feed) (reader : LeafReader) :
    LeafReader :=
  let reader := blanks.foldr (fun blank reader => reader.release (hold blank))
    (reader.release ending)
  { reader.emit feed.number (contentEntries .code (feed.cursor.skip tabSize).code) with
    running := .indentedCode (hold feed) [] }

/-- Whether a line closes a fence. -/
def closesFence (fence : Fence) (cursor : Cursor) : Bool :=
  let text := cursor.skipAll.rest
  let run := text.takeWhile (· == fence.marker)
  cursor.indent ≤ maxIndent && fence.length ≤ run.length && (text.drop run.length).all isSpace

/-- Reads a line. -/
def readLine (dialect : Dialect) (feed : Feed) (reader : LeafReader) : LeafReader :=
  let next : LeafReader := match reader.running with
    | .none => reader.begin dialect feed
    | .header header =>
      match reader.header? header feed with
      | some reader => reader
      | none =>
        (reader.settleHeader header (!(feed.isLazy || feed.isPierced))).begin dialect feed
    | .indentedCode ending blanks =>
      if feed.isLazy || feed.isPierced then
        (reader.settleCode ending blanks).begin dialect feed
      else if tabSize ≤ feed.cursor.indent then reader.extendCode ending blanks feed
      else if feed.cursor.isBlankLine && feed.line.ending ≠ [] then
        { reader with running := .indentedCode ending (feed :: blanks) }
      else (reader.settleCode ending blanks).begin dialect feed
    | .fencedCode fence indent ending =>
      if feed.isLazy then (reader.endHeld .leaveCode false ending).begin dialect feed
      else
        let reader := reader.release ending
        if closesFence fence feed.cursor then
          reader.emitLine feed [.closingFence, .leaveCode] .other false
        else
          { reader.emit feed.number (contentEntries .code (feed.cursor.skip indent).code) with
            running := .fencedCode fence indent (hold feed) }
    | .html block ending =>
      if block.endsAtBlank && feed.cursor.isBlankLine || feed.isLazy then
        (reader.endHeld .leaveHtml false ending).begin dialect feed
      else
        let reader := reader.release ending
        let entries := contentEntries .html feed.cursor.whole
        if block.endsIn feed.cursor.rest then
          reader.emitLine feed (entries ++ [.leaveHtml]) .other false
        else
          { reader.emit feed.number entries with running := .html block (hold feed) }
  { next with wasLazy := feed.isLazy }

/-- Ends the running leaf. Code between fences and some HTML take the ending of their last line with
them, unless that line misses marks of containers. -/
def finish (reader : LeafReader) : LeafReader :=
  match reader.running with
  | .none => reader
  | .header header => reader.settleHeader header (!reader.wasLazy)
  | .indentedCode ending blanks => reader.settleCode ending blanks
  | .fencedCode _ _ ending => reader.endHeld .leaveCode (!reader.wasLazy) ending
  | .html block ending =>
    reader.endHeld .leaveHtml (!(block.endsAtBlank || reader.wasLazy)) ending

end LeafReader

end TutorialPages.Markdown
