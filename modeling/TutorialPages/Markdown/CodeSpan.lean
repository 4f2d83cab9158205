import TutorialPages.Markdown.Character

/-!
# Code spans

Code stands between two runs of equally many grave accents. Line endings in it become spaces, and
one space at either end is dropped when both are there and something else is.
-/

namespace TutorialPages.Markdown.CodeSpan

/-- Looks for the closing run of exactly `size` grave accents; gives what stands before it and
after it. `current` is the length of the run that the last character ended. -/
def close? (size current : Nat) : Text → Option (Text × Text)
  | [] => if current = size then some ([], []) else none
  | '`' :: rest => (close? size (current + 1) rest).map fun (inner, after) => ('`' :: inner, after)
  | c :: rest =>
    if current = size then some ([], c :: rest)
    else (close? size 0 rest).map fun (inner, after) => (c :: inner, after)

/-- Writes each line ending as one space. -/
def flatten : Text → Text
  | [] => []
  | '\r' :: '\n' :: rest => ' ' :: flatten rest
  | c :: rest => (if isEnding c then ' ' else c) :: flatten rest

/-- Drops one space at either end. -/
def trimOnce (code : Text) : Text :=
  if 2 < code.length ∧ code.head? = some ' ' ∧ code.getLast? = some ' ' ∧ ¬code.all (· == ' ') then
    (code.drop 1).dropLast
  else code

/-- In a table, a bar behind a backslash stands for itself. -/
def unescapeBars : Text → Text
  | [] => []
  | '\\' :: '|' :: rest => '|' :: unescapeBars rest
  | c :: rest => c :: unescapeBars rest

/-- The code that opens with a run of `size` grave accents and what follows it, given what follows
that run. -/
def read? (inTable : Bool) (size : Nat) (text : Text) : Option (Text × Text) :=
  (close? size 0 text).map fun (inner, after) =>
    let inner := inner.take (inner.length - size)
    let inner := if inTable then unescapeBars inner else inner
    (trimOnce (flatten inner), after)

end TutorialPages.Markdown.CodeSpan
