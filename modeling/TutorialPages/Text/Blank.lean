import TutorialPages.Text.Basic

/-!
# Blank characters, trimming and words

A character is blank when it has the Unicode property `White_Space`. Trimming removes blank
characters at the ends of a text, and the words of a text are its maximal runs of characters that
are not blank.
-/

namespace TutorialPages

/-- The property `White_Space` of Unicode. -/
def isBlank (c : Char) : Bool :=
  let n := c.toNat
  (0x09 ≤ n && n ≤ 0x0D) || n == 0x20 || n == 0x85 || n == 0xA0 || n == 0x1680 ||
    (0x2000 ≤ n && n ≤ 0x200A) || n == 0x2028 || n == 0x2029 || n == 0x202F || n == 0x205F ||
    n == 0x3000

namespace Text

/-- Drops the blank characters at the front. -/
def trimStart (text : Text) : Text :=
  text.dropWhile isBlank

/-- Drops the blank characters at the back. -/
def trimEnd (text : Text) : Text :=
  (text.reverse.dropWhile isBlank).reverse

/-- Drops the blank characters at both ends. -/
def trim (text : Text) : Text :=
  trimEnd (trimStart text)

/-- Whether the text holds blank characters only. -/
def allBlank (text : Text) : Bool :=
  text.all isBlank

/-- The maximal runs of characters that are not blank, in order. -/
def words : Text → List Text
  | [] => []
  | c :: rest =>
    if isBlank c then words rest
    else match rest with
      | [] => [[c]]
      | d :: _ =>
        if isBlank d then [c] :: words rest
        else match words rest with
          | [] => [[c]]
          | word :: others => (c :: word) :: others

end Text

end TutorialPages
