import TutorialPages.Markdown.Html

/-!
# Sheets

HTML is written onto a sheet from front to back. A sheet knows how its text ends, so that a line
ending is added only where there is none, whether the next line ending of the document is left out,
which footnotes have been called how often, and what the footnotes say.
-/

namespace TutorialPages.Markdown

/-- Where HTML is written. -/
structure Sheet where
  /-- The text so far, last character first. -/
  reversed : Text
  /-- Whether the next line ending of the document is left out. -/
  slurps : Bool
  /-- The footnotes in the order of their first calls, with the number of calls. -/
  calls : List (Text × Nat)
  /-- The footnotes with their HTML. -/
  notes : List (Text × Text)

namespace Sheet

/-- An empty sheet. -/
def empty : Sheet := ⟨[], false, [], []⟩

/-- The text so far. -/
def text (sheet : Sheet) : Text :=
  sheet.reversed.reverse

/-- Writes text. -/
def push (text : Text) (sheet : Sheet) : Sheet :=
  { sheet with reversed := text.reverse ++ sheet.reversed }

/-- Starts a line, unless the text is empty or ends in a line ending. -/
def freshLine (ending : Text) (sheet : Sheet) : Sheet :=
  match sheet.reversed with
  | [] => sheet
  | c :: _ => if isEnding c then sheet else sheet.push ending

/-- Says whether the next line ending of the document is left out. -/
def slurp (slurps : Bool) (sheet : Sheet) : Sheet :=
  { sheet with slurps }

/-- Writes a line ending of the document, unless it is to be left out. -/
def pushEnding (raw : Text) (sheet : Sheet) : Sheet :=
  if sheet.slurps then { sheet with slurps := false } else sheet.push raw

/-- Counts the call of a footnote. -/
def call (name : Text) (sheet : Sheet) : Sheet :=
  let calls := if (sheet.calls.lookup name).isSome then
      sheet.calls.map fun (other, count) => (other, if other = name then count + 1 else count)
    else sheet.calls ++ [(name, 1)]
  { sheet with calls }

/-- The number of a footnote, counted from one, and the number of its calls so far. -/
def callOf (name : Text) (sheet : Sheet) : Nat × Nat :=
  (sheet.calls.findIdx (fun (other, _) => other = name) + 1, (sheet.calls.lookup name).getD 0)

end Sheet

end TutorialPages.Markdown
