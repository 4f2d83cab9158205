import TutorialPages.Markdown.Inline

/-!
# Emphasis

Runs of asterisks, underscores and tildes open and close emphasis, depending on what stands beside
them. Each run that can close is paired with the nearest run before it that can open with the same
mark; two marks of each are used where there are two, and what stands between the runs becomes the
emphasised part.
-/

namespace TutorialPages.Markdown

/-- A run of marks. -/
structure MarkRun where
  mark : Char
  size : Nat
  opens : Bool
  closes : Bool
  deriving DecidableEq, Repr

namespace MarkRun

/-- The marks themselves. -/
def text (run : MarkRun) : Text :=
  List.replicate run.size run.mark

/-- Whether a neighbour is a mark of emphasis itself, which counts as part of the text for other
marks than tildes. -/
def isMarkBeside (gfm : Bool) (mark : Char) (neighbour : Option Char) : Bool :=
  mark != '~' &&
    match neighbour with
    | some c => c == '*' || c == '_' || (gfm && c == '~')
    | none => false

/-- The run of marks between two characters. It opens when text follows it and closes when text
stands before it; underscores inside a word do neither. -/
def between (gfm : Bool) (before : Option Char) (mark : Char) (size : Nat) (after : Option Char) :
    MarkRun :=
  let left := CharClass.of before
  let right := CharClass.of after
  let opens := right = .other || (right = .punctuation && left ≠ .other) ||
    isMarkBeside gfm mark after
  let closes := left = .other || (left = .punctuation && right ≠ .other) ||
    isMarkBeside gfm mark before
  { mark, size
    opens := if mark = '_' then opens && (left ≠ .other || !closes) else opens
    closes := if mark = '_' then closes && (right ≠ .other || !opens) else closes }

/-- Whether two runs with one mark do not pair: when one of them could do both, their sizes must not
add up to a multiple of three unless both are, and runs of tildes must be equal and short. -/
def clash (opener closer : MarkRun) : Bool :=
  ((opener.closes || closer.opens) && closer.size % 3 != 0 &&
    (opener.size + closer.size) % 3 == 0) ||
  (closer.mark == '~' && (closer.size != opener.size || 2 < closer.size))

/-- Whether a run opens what another one closes. -/
def matchesCloser (opener closer : MarkRun) : Bool :=
  opener.opens && opener.mark == closer.mark && !clash opener closer

end MarkRun

/-- A part of a text before its emphasis is settled. -/
inductive Span where
  /-- Something that is settled. -/
  | inline (part : Inline)
  /-- Marks that may open or close emphasis. -/
  | marks (run : MarkRun)
  /-- A character of indentation that stays only where text follows. -/
  | indent (c : Char)

namespace Span

/-- Puts text before inlines, as part of the text that they begin with. -/
def joinText (value : Text) : List Inline → List Inline
  | .text next :: others => .text (value ++ next) :: others
  | others => .text value :: others

/-- The inlines that spans are when all runs stand for themselves. Neighbouring pieces of text are
joined. -/
def join : List Span → List Inline
  | [] => []
  | span :: rest =>
    match span, join rest with
    | .inline (.text value), others => joinText value others
    | .inline part, others => part :: others
    | .marks run, others => joinText run.text others
    | .indent c, .text next :: others => .text (c :: next) :: others
    | .indent _, others => others

/-- The nearest opener for a closer among spans, last one first, with what stands before it, last
one first, and what stands after it, in order. -/
def findOpener (closer : MarkRun) : List Span → List Span → Option (MarkRun × List Span × List Span)
  | _, [] => none
  | passed, .marks run :: rest =>
    if run.matchesCloser closer then some (run, rest, passed)
    else findOpener closer (.marks run :: passed) rest
  | passed, span :: rest => findOpener closer (span :: passed) rest

/-- The stress that a number of marks gives. -/
def stressOf (mark : Char) (count : Nat) : Stress :=
  if mark = '~' then .deletion else if count = 1 then .emphasis else .strong

/-- Pairs a closer with openers among the spans before it, as long as marks are left, and gives all
spans, last one first. -/
def closeWith : Nat → MarkRun → List Span → List Span
  | 0, _, before => before
  | fuel + 1, closer, before =>
    match findOpener closer [] before with
    | none => .marks closer :: before
    | some (opener, outer, inner) =>
      let count := if 1 < opener.size ∧ 1 < closer.size then 2 else 1
      let stressed := .inline (.stressed (stressOf closer.mark count) (join inner))
      let outer := if opener.size = count then outer
        else .marks { opener with size := opener.size - count } :: outer
      if closer.size = count then stressed :: outer
      else closeWith fuel { closer with size := closer.size - count } (stressed :: outer)

/-- Settles the emphasis of spans. -/
def settle (spans : List Span) : List Inline :=
  let paired := spans.foldl (fun before span =>
    match span with
    | .marks run => if run.closes then closeWith run.size run before else .marks run :: before
    | span => span :: before) []
  join paired.reverse

end Span

end TutorialPages.Markdown
