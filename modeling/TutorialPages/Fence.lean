import TutorialPages.Text.Blank

/-!
# Fences

A fenced block begins with a line that holds, after at most three columns of indentation, a run of
at least three equal marks, grave accents or tildes. It ends with a line of the same kind whose run
is at least as long and has nothing but blank characters after it. A tracker follows the lines one
by one and remembers the fence that is open.
-/

namespace TutorialPages

/-- An open fence: its mark and how often it stands there. -/
structure Fence where
  marker : Char
  length : Nat
  deriving DecidableEq, Repr

namespace Fence

/-- The columns that the spaces and tabs at the front of a line take up when `column` columns stand
before it, and what follows them. A tab reaches the next multiple of four. -/
def indentation (column : Nat) : Text → Nat × Text
  | ' ' :: rest => indentation (column + 1) rest
  | '\t' :: rest => indentation (column + (4 - column % 4)) rest
  | rest => (column, rest)

/-- The run of marks on a line that may open or close a fence, and what follows the run. What
follows a run of grave accents holds no further one. -/
def run? (line : Text) : Option (Fence × Text) :=
  let (columns, rest) := indentation 0 line
  if 3 < columns then none
  else match rest with
    | [] => none
    | mark :: _ =>
      let length := (rest.takeWhile (· == mark)).length
      let after := rest.drop length
      if (mark = '`' ∨ mark = '~') ∧ 3 ≤ length ∧ ¬(mark = '`' ∧ '`' ∈ after) then
        some (⟨mark, length⟩, after)
      else none

/-- Whether a run with what follows it closes the fence. -/
def closedBy (opened : Fence) (run : Fence) (after : Text) : Bool :=
  run.marker == opened.marker && opened.length ≤ run.length && Text.allBlank after

end Fence

/-- What a line means to a tracker. -/
inductive FenceEvent where
  /-- No fence is open. -/
  | outside
  /-- The line opens a fence. -/
  | opened
  /-- The line lies within the open fence. -/
  | inside
  /-- The line closes the open fence. -/
  | closed
  deriving DecidableEq, Repr

/-- The open fence, when there is one. -/
abbrev FenceTracker := Option Fence

namespace FenceTracker

/-- No fence is open at the start. -/
def start : FenceTracker := none

/-- The mark of the open fence. -/
def marker? (tracker : FenceTracker) : Option Char :=
  tracker.map Fence.marker

/-- Follows one line. -/
def observe (tracker : FenceTracker) (line : Text) : FenceEvent × FenceTracker :=
  match tracker, Fence.run? line with
  | none, none => (.outside, none)
  | none, some (fence, _) => (.opened, some fence)
  | some opened, none => (.inside, some opened)
  | some opened, some (run, after) =>
    if opened.closedBy run after then (.closed, none) else (.inside, some opened)

end FenceTracker

end TutorialPages
