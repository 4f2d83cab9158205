import TutorialPages.Markdown.InlineWriter
import TutorialPages.Markdown.Outline.Lists
import TutorialPages.Markdown.Outline.Prose
import TutorialPages.Markdown.Outline.Reader
import TutorialPages.Markdown.Outline.Tables

/-!
# Writing outlines

An outline becomes HTML from first to last. The line endings between blocks are those of the
document; a tag that has to start a line adds one where there is none. Footnotes are written aside
and come last, in the order of their first calls.
-/

namespace TutorialPages.Markdown

/-- The outline of a text with all of its blocks. -/
def Outline.read (dialect : Dialect) (text : Text) : Outline :=
  (Outline.ofText dialect text).withParagraphs.withHeadings.withTableEnds.withLists

/-- What the writing of blocks depends on. -/
structure BlockContext where
  dialect : Dialect
  /-- The targets that labels name. -/
  targets : List (Text × Target)
  /-- The names of the footnotes. -/
  footnotes : List Text
  /-- The line ending that is added. -/
  ending : Text

namespace BlockContext

/-- The context for a passage. -/
def inlines (context : BlockContext) (inTable : Bool) (passage : Passage) : InlineContext where
  dialect := context.dialect
  targets := context.targets
  footnotes := context.footnotes
  inTable := inTable
  lines := Passage.starts passage.lines
  before := passage.lines.head?.bind (·.before.getLast?)
  next := passage.next

/-- The context of a whole document: of two definitions of one label, the first one counts, and line
endings are added as the document writes its first one. -/
def ofOutline (dialect : Dialect) (text : Text) (outline : Outline) : BlockContext where
  dialect := dialect
  targets := outline.filterMap fun
    | .definition definition => some (normalizeLabel definition.label, definition.target)
    | _ => none
  footnotes := outline.filterMap fun
    | .enter (.footnote label) => some (normalizeLabel label)
    | _ => none
  ending := match text.dropWhile fun c => !isEnding c with
    | '\r' :: '\n' :: _ => ['\r', '\n']
    | c :: _ => [c]
    | [] => ['\n']

end BlockContext

/-- What is known while an outline is being written. -/
structure OutlineWriter where
  sheet : Sheet
  /-- The entries so far, last one first. -/
  before : List Entry
  /-- For each list, quotation and footnote around, innermost first, whether it is a list that is
  not loose. -/
  tight : List Bool
  /-- What has been written outside of the footnotes around, innermost first. -/
  outer : List Text
  /-- The alignments of the columns of the table around. -/
  columns : List Alignment
  /-- Whether there is text in the code around. -/
  hasCode : Bool
  /-- The number of fences of the code around, if it is code between fences. -/
  fences : Option Nat

namespace OutlineWriter

/-- Nothing has been written. -/
def start : OutlineWriter :=
  ⟨.empty, [], [], [], [], false, none⟩

/-- Writes with the sheet alone. -/
def onSheet (write : Sheet → Sheet) (writer : OutlineWriter) : OutlineWriter :=
  { writer with sheet := write writer.sheet }

/-- Writes text. -/
def push (text : Text) : OutlineWriter → OutlineWriter :=
  onSheet (·.push text)

/-- Writes text that starts a line. -/
def pushLine (context : BlockContext) (text : Text) : OutlineWriter → OutlineWriter :=
  onSheet fun sheet => (sheet.freshLine context.ending).push text

/-- Says whether the next line ending of the document is left out. -/
def slurp (slurps : Bool) : OutlineWriter → OutlineWriter :=
  onSheet (·.slurp slurps)

/-- Whether the blocks around are those of an item in a list that is not loose. -/
def isTight (writer : OutlineWriter) : Bool :=
  writer.tight.headD false

/-- Goes into a block. -/
def goInto (isTight : Bool) (writer : OutlineWriter) : OutlineWriter :=
  { writer with tight := isTight :: writer.tight }

/-- Goes out of a block. -/
def goOut (writer : OutlineWriter) : OutlineWriter :=
  { writer with tight := writer.tight.drop 1 }

/-! ## Text -/

/-- Writes a passage. -/
def passage (context : BlockContext) (inTable : Bool) (passage : Passage) :
    OutlineWriter → OutlineWriter :=
  onSheet fun sheet => Inline.writeAll context.dialect ⟨false, false⟩ sheet
    (InlineReader.read (context.inlines inTable passage) passage.text)

/-- Whether the entries before, last one first, show that a paragraph is the first one of an item,
with nothing but definitions before it. -/
def opensItem : List Entry → Bool
  | .enter (.item ..) :: _ => true
  | .space :: before | .ending _ :: before | .blankEnding _ :: before
  | .definition _ :: before => opensItem before
  | _ => false

/-- Writes the text of a paragraph, which begins with a box when it is the first one of an item. -/
def paragraphText (context : BlockContext) (text : Passage) (writer : OutlineWriter) :
    OutlineWriter :=
  let mayHaveBox := context.dialect.gfm && text.startsWhole && opensItem writer.before
  let box := if mayHaveBox then checkbox? text.column text.text else none
  match box with
  | none => writer.passage context false text
  | some (checked, rest) =>
    (writer.push (.join ["<input type=\"checkbox\" disabled=\"\"",
      if checked then " checked=\"\"" else [], " />"])).onSheet fun sheet =>
        Inline.writeAll context.dialect ⟨false, false⟩ sheet
          (InlineReader.readOpen (context.inlines false text) rest)

/-- Writes a paragraph. -/
def paragraph (context : BlockContext) (text : Passage) (writer : OutlineWriter) : OutlineWriter :=
  if writer.isTight then (writer.paragraphText context text).slurp true
  else ((writer.pushLine context "<p>").paragraphText context text).push "</p>"

/-- Writes a heading. -/
def heading (context : BlockContext) (depth : Nat) (text : Passage) (writer : OutlineWriter) :
    OutlineWriter :=
  let tag := 'h' :: Text.ofNat depth
  ((writer.pushLine context (.join ["<", tag, ">"])).passage context false text).push
    (.join ["</", tag, ">"])

/-! ## Line endings -/

/-- Whether the ending of a line is left out after the entries before, last one first: definitions
and footnotes leave nothing where they stand. -/
def hidesEnding : List Entry → Bool
  | .definition _ :: _ | .leave (.footnote _) :: _ => true
  | _ => false

/-- Writes the ending of a line. -/
def ending (raw : Text) (writer : OutlineWriter) : OutlineWriter :=
  if hidesEnding writer.before then writer.slurp false else writer.onSheet (·.pushEnding raw)

/-- Writes the ending of a blank line, which counts only at the end of the document. -/
def blankEnding (context : BlockContext) (isLast : Bool) (writer : OutlineWriter) : OutlineWriter :=
  let writer := writer.slurp false
  if isLast then writer.onSheet (·.freshLine context.ending) else writer

/-! ## Code -/

/-- Begins code. -/
def enterCode (context : BlockContext) (info : Option Text) (writer : OutlineWriter) :
    OutlineWriter :=
  let writer := { writer with hasCode := false, fences := info.map fun _ => 1 }
  match info with
  | none => writer.pushLine context "<pre><code>"
  | some info =>
    let language : Text := if info = [] then []
      else .join [" class=\"language-", Html.encode (decode info), "\""]
    (writer.pushLine context (.join ["<pre><code", language, ">"])).slurp true

/-- Whether the entries before, last one first, end in a fence. -/
def endsInFence : List Entry → Bool
  | .enterCode (some _) :: _ | .closingFence :: _ => true
  | _ => false

/-- Ends code. Inside of a block, a line ending is added to code without a closing fence. -/
def leaveCode (context : BlockContext) (writer : OutlineWriter) : OutlineWriter :=
  let isOpen := writer.fences == some 1
  let writer :=
    if isOpen && !writer.tight.isEmpty && !endsInFence writer.before then
      writer.push context.ending
    else writer
  let writer := if writer.hasCode then writer.onSheet (·.freshLine context.ending) else writer
  let writer := writer.push "</code></pre>"
  let writer := if isOpen then writer.onSheet (·.freshLine context.ending) else writer
  { writer with fences := none }.slurp false

/-! ## Tables -/

/-- The attribute for the alignment of a column. -/
def alignAttribute : Alignment → Text
  | .none => []
  | .left => " align=\"left\""
  | .center => " align=\"center\""
  | .right => " align=\"right\""

/-- Writes the cells of a row below the alignments of the columns. A row with fewer cells is filled
up. Cells beyond the last column are left out, but what they call is called. -/
def cells (context : BlockContext) (tag : Text) :
    List Alignment → List Passage → OutlineWriter → OutlineWriter
  | [], cells, writer =>
    cells.foldl (fun writer cell =>
      let unseen := writer.passage context true cell
      unseen.onSheet fun sheet => { sheet with reversed := writer.sheet.reversed }) writer
  | alignment :: alignments, [], writer =>
    cells context tag alignments []
      (writer.pushLine context (.join ["<", tag, alignAttribute alignment, "></", tag, ">"]))
  | alignment :: alignments, cell :: others, writer =>
    let writer := writer.pushLine context (.join ["<", tag, alignAttribute alignment, ">"])
    cells context tag alignments others
      ((writer.passage context true cell).push (.join ["</", tag, ">"]))

/-- Writes a row. -/
def row (context : BlockContext) (tag : Text) (cells : List Passage) (writer : OutlineWriter) :
    OutlineWriter :=
  let columns := writer.columns
  ((writer.pushLine context "<tr>").cells context tag columns cells).pushLine context "</tr>"

/-! ## Blocks around others -/

/-- The tag of a list. -/
def listTag (isOrdered : Bool) : Text :=
  if isOrdered then "ol" else "ul"

/-- Begins a list, given the rest of the outline. -/
def enterList (context : BlockContext) (isOrdered : Bool) (number : Nat) (rest : Outline)
    (writer : OutlineWriter) : OutlineWriter :=
  let isLoose := Outline.isLoose isOrdered 1 (.enterList isOrdered number :: writer.before) rest
  let number : Text := if isOrdered ∧ number ≠ 1 then .join [" start=\"", Text.ofNat number, "\""]
    else []
  (writer.goInto !isLoose).pushLine context (.join ["<", listTag isOrdered, number, ">"])

/-- Ends a list. -/
def leaveList (context : BlockContext) (isOrdered : Bool) (writer : OutlineWriter) :
    OutlineWriter :=
  writer.goOut.push (.join [context.ending, "</", listTag isOrdered, ">"])

/-- Whether the closing tag of an item stays on the line of what is before it, given the entries
before, last one first: what adds nothing does not count, and nothing else is left, or a paragraph
of a list that is not loose. `depth` footnotes have ended. -/
def endsInline (isTight : Bool) (depth : Nat) : List Entry → Bool
  | [] => false
  | entry :: before =>
    match entry, depth with
    | .leave (.footnote _), depth => endsInline isTight (depth + 1) before
    | .enter (.footnote _), depth + 1 => endsInline isTight depth before
    | _, depth + 1 => endsInline isTight (depth + 1) before
    | .definition _, 0 => endsInline isTight 0 before
    | .paragraph _, 0 => isTight
    | .enter (.item ..), 0 => true
    | entry, 0 => if entry.isGap then endsInline isTight 0 before else false

/-- Begins an enclosure. -/
def enter (context : BlockContext) (enclosure : Enclosure) (writer : OutlineWriter) :
    OutlineWriter :=
  match enclosure with
  | .quote => (writer.goInto false).pushLine context "<blockquote>"
  | .item .. => writer.pushLine context "<li>"
  | .footnote _ =>
    let writer := writer.goInto false
    { writer with
      outer := writer.sheet.reversed :: writer.outer
      sheet := { writer.sheet with reversed := [] } }

/-- Ends an enclosure. -/
def leave (context : BlockContext) (enclosure : Enclosure) (writer : OutlineWriter) :
    OutlineWriter :=
  match enclosure with
  | .quote => (writer.goOut.pushLine context "</blockquote>").slurp false
  | .item .. =>
    let writer := writer.slurp false
    if endsInline writer.isTight 0 writer.before then writer.push "</li>"
    else writer.pushLine context "</li>"
  | .footnote label =>
    let notes := writer.sheet.notes ++ [(normalizeLabel label, writer.sheet.text)]
    let sheet := { writer.sheet with reversed := writer.outer.headD [], notes }
    { writer.goOut with outer := writer.outer.drop 1, sheet }

/-- Writes an entry that others follow. -/
def entry (context : BlockContext) (entry : Entry) (rest : Outline) (writer : OutlineWriter) :
    OutlineWriter :=
  match entry with
  | .enter enclosure => writer.enter context enclosure
  | .leave enclosure => writer.leave context enclosure
  | .quoteMark | .space | .definition _ | .line _ | .underline .. => writer
  | .ending raw => writer.ending raw
  | .blankEnding _ => writer.blankEnding context rest.isEmpty
  | .enterList isOrdered number => writer.enterList context isOrdered number rest
  | .leaveList isOrdered => writer.leaveList context isOrdered
  | .paragraph text => writer.paragraph context text
  | .heading depth text => writer.heading context depth text
  | .thematicBreak => writer.pushLine context "<hr />"
  | .enterCode info => writer.enterCode context info
  | .code text => { writer.push (Html.encode text) with hasCode := true }
  | .closingFence => { writer with fences := writer.fences.map (· + 1) }
  | .leaveCode => writer.leaveCode context
  | .enterHtml => writer.onSheet (·.freshLine context.ending)
  | .html text => writer.push (Inline.passedHtml context.dialect text)
  | .leaveHtml => writer
  | .enterTable alignments => { writer with columns := alignments }.pushLine context "<table>"
  | .header cells => (writer.pushLine context "<thead>").row context "th" cells
  | .leaveHeader => writer.pushLine context "</thead>"
  | .enterBody => writer.push "<tbody>"
  | .row cells => writer.row context "td" cells
  | .leaveBody => writer.pushLine context "</tbody>"
  | .leaveTable => writer.pushLine context "</table>"

/-- Writes an outline. -/
def outline (context : BlockContext) : Outline → OutlineWriter → OutlineWriter
  | [], writer => writer
  | first :: rest, writer =>
    let writer := writer.entry context first rest
    outline context rest { writer with before := first :: writer.before }

end OutlineWriter

namespace Footnote

/-- The HTML of a footnote with the links back to its calls; these stand at the end of the last
paragraph, if the HTML ends in one. -/
def withBacklinks (context : BlockContext) (html links : Text) (sheet : Sheet) : Sheet :=
  let endings := html.reverse.takeWhile isEnding
  match html.reverse.drop endings.length with
  | '>' :: 'p' :: '/' :: '<' :: front =>
    sheet.push (front.reverse ++ ' ' :: links ++ "</p>".toList ++ endings.reverse)
  | _ => ((sheet.push html).freshLine context.ending).push links

/-- Writes a footnote that has been called `count` times. -/
def write (context : BlockContext) (sheet : Sheet) (name : Text) (count : Nat) : Sheet :=
  let html := (sheet.notes.lookup name).getD []
  let links := Text.joinWith [' '] ((List.range count).map fun n => Footnote.backHtml name (n + 1))
  let sheet := (sheet.push context.ending).push
    (.join ["<li id=\"", Footnote.clobber, "fn-", Footnote.identifier name, "\">"])
  let sheet := withBacklinks context html links (sheet.push context.ending)
  (sheet.freshLine context.ending).push "</li>"

/-- Writes the footnotes that have been called. -/
def writeAll (context : BlockContext) (sheet : Sheet) : Sheet :=
  if sheet.calls.isEmpty then sheet
  else
    let sheet := (sheet.freshLine context.ending).push
      (.join ["<section data-footnotes=\"\" class=\"footnotes\">",
        "<h2 id=\"footnote-label\" class=\"sr-only\">Footnotes</h2>"])
    let sheet := (sheet.push context.ending).push "<ol>"
    let sheet := sheet.calls.foldl (fun sheet (name, count) => write context sheet name count) sheet
    let sheet := (sheet.push context.ending).push "</ol>"
    ((sheet.push context.ending).push "</section>").push context.ending

end Footnote

/-- Writes a whole document. -/
def Outline.write (context : BlockContext) (outline : Outline) : Text :=
  (Footnote.writeAll context (OutlineWriter.start.outline context outline).sheet).text

end TutorialPages.Markdown
