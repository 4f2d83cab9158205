import TutorialPages.Markdown.Outline.Basic

/-!
# Paragraphs, definitions and headings

Lines of text that follow one another make up a paragraph, which may begin with definitions. A line
of hyphens or equals signs below a paragraph makes a heading of it; where there is no paragraph
above, that line is text itself.
-/

namespace TutorialPages.Markdown.Outline

/-! ## Lines of text -/

/-- A line of text with the marks at its front. -/
structure MarkedLine where
  marks : List Entry
  line : TextLine

/-- A part of an outline in which lines have been put together. -/
inductive Part where
  /-- An entry that is no line of text. -/
  | single (entry : Entry)
  /-- Lines of text that follow one another. The marks of the first one stand before it. -/
  | prose (lines : List MarkedLine)

/-- Whether a part may stand between the ending of a line and a line that goes on with it. -/
def Part.isMark : Part → Bool
  | .single .space | .single .quoteMark => true
  | _ => false

/-- The entries of parts that are such. -/
def Part.entry? : Part → Option Entry
  | .single entry => some entry
  | .prose _ => none

/-- Puts a line of text before parts. -/
def joinLine (line : TextLine) (parts : List Part) : List Part :=
  let alone := .prose [⟨[], line⟩] :: parts
  match parts with
  | .single (.ending raw) :: rest =>
    let marks := rest.takeWhile Part.isMark
    match rest.drop marks.length with
    | .prose (next :: others) :: after =>
      .prose (⟨[], { line with ending := raw }⟩ ::
        { next with marks := marks.filterMap Part.entry? } :: others) :: after
    | _ => alone
  | _ => alone

/-- The parts of an outline. -/
def parts : Outline → List Part
  | [] => []
  | .line line :: rest => joinLine line (parts rest)
  | entry :: rest => .single entry :: parts rest

/-- The definitions that lines begin with and the paragraph that the others make up. `fuel` is at
least the number of lines. -/
def ofLines : Nat → List MarkedLine → Outline
  | 0, _ | _, [] => []
  | fuel + 1, first :: others =>
    let lines := (first :: others).map MarkedLine.line
    first.marks ++
      match Definition.read? lines with
      | none => [.paragraph (.ofLines lines)]
      | some (definition, count) =>
        let endings := match (lines.take count).getLast? with
          | some last => if last.ending = [] then [] else [.ending last.ending]
          | none => []
        .definition definition :: endings ++ ofLines fuel ((first :: others).drop count)

/-- The outline that a part stands for. -/
def Part.outline : Part → Outline
  | .single entry => [entry]
  | .prose lines => ofLines lines.length lines

/-- The outline with its lines of text as paragraphs and definitions. -/
def withParagraphs (outline : Outline) : Outline :=
  (parts outline).flatMap Part.outline

/-! ## Underlines -/

/-- Whether an entry may stand between a paragraph and the line that makes a heading of it. -/
def isAboveUnderline : Entry → Bool
  | .space | .quoteMark | .ending _ => true
  | _ => false

/-- Whether a paragraph on the next line comes first in an outline. -/
def continuesInParagraph : Outline → Bool
  | .ending _ :: .paragraph _ :: _ => true
  | _ => false

/-- Settles the underlines of an outline behind entries that are given last one first. The ending of
a paragraph that becomes a heading belongs to the heading. `first` is an underline that has turned
out to be the first line of the paragraph that comes next. -/
def settleUnderlines (first : Option TextLine) (before : List Entry) : Outline → Outline
  | [] => before.reverse
  | entry :: rest =>
    match first, entry with
    | some line, .ending raw => settleUnderlines (some { line with ending := raw }) before rest
    | some line, .paragraph passage =>
      let passage := { passage with lines := line :: passage.lines }
      settleUnderlines none (.paragraph passage :: before) rest
    | _, .underline depth line =>
      let gap := before.takeWhile isAboveUnderline
      match before.drop gap.length with
      | .paragraph passage :: outer =>
        let marks := gap.filter fun entry => !entry.isEnding
        settleUnderlines none (.heading depth passage :: marks ++ outer) rest
      | _ =>
        if continuesInParagraph rest then settleUnderlines (some line) before rest
        else settleUnderlines none (.paragraph (.ofLines [line]) :: before) rest
    | _, entry => settleUnderlines none (entry :: before) rest

/-- The outline with its underlines as headings or as text. -/
def withHeadings (outline : Outline) : Outline :=
  settleUnderlines none [] outline

end TutorialPages.Markdown.Outline
