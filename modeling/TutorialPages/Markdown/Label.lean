import TutorialPages.Markdown.Character
import TutorialPages.Text.LetterCase

/-!
# Labels

A label stands between square brackets and names a definition. Labels that differ in case or in the
amount of blank space between their words name the same definition.
-/

namespace TutorialPages.Markdown

/-- The name that a label stands for: its words in one case with single spaces between them. -/
def normalizeLabel (label : Text) : Text :=
  Text.toUpper (Text.toLower (collapse (label.dropWhile isGap)))
where
  /-- Writes each run of blank space as one space and drops the last one. -/
  collapse : Text → Text
    | [] => []
    | c :: rest =>
      if isGap c then
        match rest with
        | [] => []
        | d :: _ =>
          if isGap d then collapse rest
          else ' ' :: collapse rest
      else c :: collapse rest

namespace Label

/-- The most bytes that a label may have. -/
def limit : Nat := 999

/-- The characters up to the closing bracket and what follows it. A backslash keeps a bracket or a
backslash from counting, and no opening bracket may stand inside. -/
def body? : Text → Option (Text × Text)
  | [] => none
  | ']' :: rest => some ([], rest)
  | '[' :: _ => none
  | '\\' :: c :: rest =>
    if c = '[' ∨ c = ']' ∨ c = '\\' then
      (body? rest).map fun (label, after) => ('\\' :: c :: label, after)
    else (body? (c :: rest)).map fun (label, after) => ('\\' :: label, after)
  | c :: rest => (body? rest).map fun (label, after) => (c :: label, after)

/-- The number of bytes of a label, without the endings of its lines and the indentation behind
them. `isIndent` says whether an indentation goes on. -/
def size (isIndent : Bool) : Text → Nat
  | [] => 0
  | c :: rest =>
    if isEnding c || isIndent && isSpace c then size true rest
    else Text.utf8Length [c] + size false rest

/-- A label and what follows it, given what follows the opening bracket. -/
def read? (text : Text) : Option (Text × Text) :=
  match body? text with
  | some (label, after) =>
    if label.all isGap ∨ limit < size false label then none else some (label, after)
  | none => none

end Label

end TutorialPages.Markdown
