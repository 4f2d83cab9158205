import TutorialPages.Markdown.Character
import TutorialPages.Markdown.NamedReference.LowerAToE
import TutorialPages.Markdown.NamedReference.LowerFToL
import TutorialPages.Markdown.NamedReference.LowerMToR
import TutorialPages.Markdown.NamedReference.LowerSToZ
import TutorialPages.Markdown.NamedReference.UpperAToI
import TutorialPages.Markdown.NamedReference.UpperJToZ

/-!
# Character references and escapes

A reference stands for a character by its name, its decimal number or its hexadecimal number,
between an ampersand and a semicolon. A backslash before ASCII punctuation stands for that
character. Destinations, titles and info strings are decoded by these two rules alone.
-/

namespace TutorialPages.Markdown

namespace NamedReference

/-- The names that begin with a letter, without it. -/
def startingWith : Char → List (String × String)
  | 'A' => capitalA | 'B' => capitalB | 'C' => capitalC | 'D' => capitalD | 'E' => capitalE
  | 'F' => capitalF | 'G' => capitalG | 'H' => capitalH | 'I' => capitalI | 'J' => capitalJ
  | 'K' => capitalK | 'L' => capitalL | 'M' => capitalM | 'N' => capitalN | 'O' => capitalO
  | 'P' => capitalP | 'Q' => capitalQ | 'R' => capitalR | 'S' => capitalS | 'T' => capitalT
  | 'U' => capitalU | 'V' => capitalV | 'W' => capitalW | 'X' => capitalX | 'Y' => capitalY
  | 'Z' => capitalZ | 'a' => smallA | 'b' => smallB | 'c' => smallC | 'd' => smallD
  | 'e' => smallE | 'f' => smallF | 'g' => smallG | 'h' => smallH | 'i' => smallI
  | 'j' => smallJ | 'k' => smallK | 'l' => smallL | 'm' => smallM | 'n' => smallN
  | 'o' => smallO | 'p' => smallP | 'q' => smallQ | 'r' => smallR | 's' => smallS
  | 't' => smallT | 'u' => smallU | 'v' => smallV | 'w' => smallW | 'x' => smallX
  | 'y' => smallY | 'z' => smallZ
  | _ => []

/-- The text that a name stands for. -/
def lookup? : Text → Option Text
  | [] => none
  | first :: rest => ((startingWith first).lookup (String.ofList rest)).map String.toList

end NamedReference

namespace Reference

/-- The value of digits in a base up to sixteen. -/
def digitsValue (base : Nat) (digits : Text) : Nat :=
  digits.foldl (fun value c =>
    base * value +
      (if c.isDigit then c.toNat - 48 else if c.toNat < 97 then c.toNat - 55 else c.toNat - 87)) 0

/-- Whether a digit may stand in a hexadecimal number. -/
def isHexDigit (c : Char) : Bool :=
  c.isDigit || ('a' ≤ c && c ≤ 'f') || ('A' ≤ c && c ≤ 'F')

/-- Whether a number names no character of a text: most control characters, halves of surrogate
pairs, code points that are set aside, and numbers beyond Unicode. -/
def isForbidden (n : Nat) : Bool :=
  n ≤ 0x08 || n == 0x0B || (0x0E ≤ n && n ≤ 0x1F) || (0x7F ≤ n && n ≤ 0x9F) ||
    (0xD800 ≤ n && n ≤ 0xDFFF) || (0xFDD0 ≤ n && n ≤ 0xFDEF) || 0x10FFFF < n

/-- The character of a number, or the replacement character. -/
def ofNumber (n : Nat) : Char :=
  if isForbidden n then '\uFFFD' else Char.ofNat n

/-- What a run of name characters becomes when a semicolon follows it: the text it names. -/
def terminated (accepts : Char → Bool) (limit : Nat) (value? : Text → Option Text) (text : Text) :
    Option (Text × Text) :=
  let name := text.takeWhile accepts
  match text.drop name.length with
  | ';' :: rest =>
    if name = [] ∨ limit < name.length then none
    else (value? name).map fun value => (value, rest)
  | _ => none

/-- The text of a reference and what follows it, given what follows the ampersand. -/
def read? : Text → Option (Text × Text)
  | '#' :: 'x' :: rest | '#' :: 'X' :: rest =>
    terminated isHexDigit 6 (fun digits => some [ofNumber (digitsValue 16 digits)]) rest
  | '#' :: rest =>
    terminated Char.isDigit 7 (fun digits => some [ofNumber (digitsValue 10 digits)]) rest
  | rest => terminated Char.isAlphanum 31 NamedReference.lookup? rest

end Reference

/-- Decodes at most `fuel` escapes, references and plain characters. -/
def decodeWithin : Nat → Text → Text
  | 0, text => text
  | _, [] => []
  | fuel + 1, '\\' :: c :: rest =>
    if isAsciiPunctuation c then c :: decodeWithin fuel rest
    else '\\' :: decodeWithin fuel (c :: rest)
  | fuel + 1, '&' :: rest =>
    match Reference.read? rest with
    | some (value, after) => value ++ decodeWithin fuel after
    | none => '&' :: decodeWithin fuel rest
  | fuel + 1, c :: rest => c :: decodeWithin fuel rest

/-- Drops the spaces and tabs around the line endings of a text. -/
def trimAroundEndings : Text → Text
  | [] => []
  | c :: rest =>
    let tail := trimAroundEndings rest
    if isSpace c then
      match rest.dropWhile isSpace with
      | d :: _ => if isEnding d then tail else c :: tail
      | [] => c :: tail
    else if isEnding c then c :: tail.dropWhile isSpace
    else c :: tail

/-- The text that a destination, a title or an info string stands for. -/
def decode (text : Text) : Text :=
  decodeWithin text.length (trimAroundEndings text)

end TutorialPages.Markdown
