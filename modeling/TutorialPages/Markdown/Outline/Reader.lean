import TutorialPages.Markdown.Outline.LeafReader

/-!
# Reading outlines

A document is read line by line. A line goes through the open containers, may begin new ones, and
leaves its rest to the leaves. Text also takes a line that misses the marks of its containers, if
that line is nothing but text.

A container ends before the ending of the last line that belongs to it. What the lines give is kept
by line, because the leaves give some entries late; in the end all is put in order.
-/

namespace TutorialPages.Markdown

/-- What a line does to containers. -/
structure LineMarks where
  /-- The containers that have ended with the line before. -/
  ended : List Entry
  /-- The marks at the front of the line. -/
  marks : List Entry

/-- What is known between two lines. -/
structure OutlineReader where
  /-- The open containers, outermost first. -/
  containers : List Container
  leaves : LeafReader
  /-- Whether the last line may be part of a paragraph. -/
  endsInText : Bool
  /-- What the lines so far do to containers, last line first. -/
  lines : List LineMarks

namespace OutlineReader

/-- Nothing is known before the first line. -/
def start : OutlineReader :=
  ⟨[], .start, false, []⟩

/-- The entries for the end of containers, innermost first. -/
def leaveEntries (containers : List Container) : List Entry :=
  containers.reverse.map fun container => .leave container.enclosure

/-- How far a line has been read. -/
structure Progress where
  /-- The containers that the line belongs to, outermost first. -/
  kept : List Container
  /-- The other open containers, outermost first. -/
  missed : List Container
  leaves : LeafReader
  ended : List Entry
  marks : List Entry
  cursor : Cursor
  isPierced : Bool

/-- Goes through the open containers. -/
def continueAll (cursor : Cursor) :
    List Container → List Container × List Container × List Entry × Cursor
  | [] => ([], [], [], cursor)
  | container :: inner =>
    match container.continue? cursor with
    | none => ([], container :: inner, [], cursor)
    | some found =>
      let (kept, missed, marks, cursor) := continueAll found.cursor inner
      (found.value :: kept, missed, found.marks ++ marks, cursor)

/-- Begins a container. The first one ends those that the line misses, and with them the leaf; if it
misses none, the leaf may still go on. -/
def begin (found : Container.Found Container) (progress : Progress) : Progress :=
  let begun := { progress with
    kept := progress.kept ++ [found.value]
    missed := []
    marks := progress.marks ++ found.marks
    cursor := found.cursor
    isPierced := true }
  if progress.missed.isEmpty then begun
  else { begun with
    leaves := { progress.leaves.finish with interrupts := false }
    ended := leaveEntries progress.missed }

/-- Begins the containers that a line with the given ending begins, at most `fuel` of them. -/
def beginAll (dialect : Dialect) (ending : Text) : Nat → Progress → Progress
  | 0, progress => progress
  | fuel + 1, progress =>
    let isComplete := progress.missed.isEmpty
    if isComplete && progress.leaves.isVerbatim then progress
    else match Container.start? dialect (isComplete && progress.leaves.interrupts) ending
        progress.cursor with
      | none => progress
      | some found => beginAll dialect ending fuel (begin found progress)

/-- Leaves the rest of a line to the leaves; nothing is left when a line without ending holds marks
alone. -/
def feed (dialect : Dialect) (number : Nat) (line : Line) (progress : Progress) : LeafReader :=
  let isLazy := !progress.missed.isEmpty
  if progress.cursor.rest = [] ∧ line.ending = [] then
    { progress.leaves with wasLazy := isLazy }
  else progress.leaves.readLine dialect ⟨number, line, progress.cursor, isLazy, progress.isPierced⟩

/-- Reads a line. -/
def readLine (dialect : Dialect) (number : Nat) (line : Line) (reader : OutlineReader) :
    OutlineReader :=
  let start := if number = 0 then Cursor.startDocument line.text else .start line.text
  let (kept, missed, marks, cursor) := continueAll start reader.containers
  let progress := beginAll dialect line.ending (line.text.length + 1)
    ⟨kept, missed, reader.leaves, [], marks, cursor, false⟩
  let leaves := feed dialect number line progress
  let endsInText := leaves.endsInText
  if progress.missed.isEmpty || reader.endsInText && endsInText then
    { containers := progress.kept ++ progress.missed
      leaves, endsInText
      lines := ⟨progress.ended, progress.marks⟩ :: reader.lines }
  else
    { containers := progress.kept
      leaves := { leaves with interrupts := false }
      endsInText
      lines := ⟨leaveEntries progress.missed, progress.marks⟩ :: reader.lines }

/-- Reads lines, of which the first one has the given number. -/
def readLines (dialect : Dialect) : Nat → List Line → OutlineReader → OutlineReader
  | _, [], reader => reader
  | number, line :: others, reader =>
    readLines dialect (number + 1) others (reader.readLine dialect number line)

/-! ## Putting entries in order -/

/-- Puts the ends of containers into the entries that the leaves give for a line: before the ending
of the line, or behind all if a leaf has taken that ending with it. -/
def insertEnded (ended : List Entry) (entries : List Entry) : List Entry :=
  let front := entries.takeWhile fun entry => !entry.isEnding
  match entries.drop front.length with
  | [ending] => front ++ ended ++ [ending]
  | _ => entries ++ ended

/-- Puts together what lines, of which the first one has the given number, do to containers and the
entries of their leaves. The containers of `last` end with the last line. -/
def merge (last : List Entry) : Nat → List LineMarks → List (Nat × Entry) → Outline
  | _, [], _ => []
  | number, line :: others, entries =>
    let own := entries.takeWhile fun (owner, _) => owner ≤ number
    let ended := match others with
      | [] => last
      | next :: _ => next.ended
    line.marks ++ insertEnded ended (own.map Prod.snd) ++
      merge last (number + 1) others (entries.drop own.length)

/-- The outline when all lines have been read. -/
def outline (reader : OutlineReader) : Outline :=
  merge (leaveEntries reader.containers) 0 reader.lines.reverse
    reader.leaves.finish.entries.reverse

end OutlineReader

/-- The outline of a text, with its lines of text as they are. -/
def Outline.ofText (dialect : Dialect) (text : Text) : Outline :=
  (OutlineReader.start.readLines dialect 0 (Line.split text)).outline

end TutorialPages.Markdown
