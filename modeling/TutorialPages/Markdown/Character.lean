import TutorialPages.Markdown.Punctuation
import TutorialPages.Text.Blank

/-!
# Classes of characters in Markdown

Markdown knows spaces and tabs, line endings, and the punctuation of ASCII. Emphasis also asks
whether a neighbouring character is blank, punctuation in the sense of Unicode, or neither.
-/

namespace TutorialPages.Markdown

/-- Whether a character is a space or a tab. -/
def isSpace (c : Char) : Bool :=
  c == ' ' || c == '\t'

/-- Whether a character belongs to a line ending. -/
def isEnding (c : Char) : Bool :=
  c == '\n' || c == '\r'

/-- Whether a character is a space, a tab, or part of a line ending. -/
def isGap (c : Char) : Bool :=
  isSpace c || isEnding c

/-- Whether a character is an ASCII control character. -/
def isControl (c : Char) : Bool :=
  c.toNat < 0x20 || c.toNat == 0x7F

/-- Whether a character is ASCII punctuation. -/
def isAsciiPunctuation (c : Char) : Bool :=
  let n := c.toNat
  (0x21 ≤ n && n ≤ 0x2F) || (0x3A ≤ n && n ≤ 0x40) || (0x5B ≤ n && n ≤ 0x60) ||
    (0x7B ≤ n && n ≤ 0x7E)

/-- What a character is to the emphasis beside it. -/
inductive CharClass where
  | blank
  | punctuation
  | other
  deriving DecidableEq, Repr

/-- The class of a character; a missing one, at the start or the end of a text, counts as blank. -/
def CharClass.of : Option Char → CharClass
  | none => .blank
  | some c =>
    if isBlank c then .blank
    else if isAsciiPunctuation c ||
        punctuationIntervals.any (fun (first, last) => first ≤ c.toNat && c.toNat ≤ last) then
      .punctuation
    else .other

end TutorialPages.Markdown
