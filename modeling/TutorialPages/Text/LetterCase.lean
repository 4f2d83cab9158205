import TutorialPages.Text.CaseTable

/-!
# Letter case

The full case mappings of Unicode: one character may become several. Uppercase is taken character
by character. Lowercase of a text looks at the neighbours of a capital sigma, which is written `ς`
at the end of a word and `σ` elsewhere. Keywords are compared by a weaker rule that only folds the
letters of ASCII.
-/

namespace TutorialPages

/-- The full uppercase form of one character. -/
def upperChar (c : Char) : Text :=
  if c.toNat < 0x80 then [c.toUpper]
  else match CaseTable.upperSequences.lookup c.toNat with
    | some codes => codes.map Char.ofNat
    | none =>
      match CaseTable.move? CaseTable.upperRuns c.toNat with
      | some code => [Char.ofNat code]
      | none => [c]

/-- The full lowercase form of one character, taken without its neighbours. -/
def lowerChar (c : Char) : Text :=
  if c.toNat < 0x80 then [c.toLower]
  else match CaseTable.lowerSequences.lookup c.toNat with
    | some codes => codes.map Char.ofNat
    | none =>
      match CaseTable.move? CaseTable.lowerRuns c.toNat with
      | some code => [Char.ofNat code]
      | none => [c]

namespace Text

/-- The uppercase form of a text. -/
def toUpper (text : Text) : Text :=
  text.flatMap upperChar

/-- Whether the first character that counts for letter case has case. -/
def startsCased (text : Text) : Bool :=
  match text.dropWhile fun c => CaseTable.within CaseTable.caseIgnorable c.toNat with
  | [] => false
  | c :: _ => CaseTable.within CaseTable.cased c.toNat

/-- The lowercase form of a capital sigma that follows the reversed text `before` and precedes
`rest`: final when a letter stands before it and none after it. -/
def lowerSigma (before rest : Text) : Char :=
  if startsCased before && !startsCased rest then 'ς' else 'σ'

/-- Lowercases a text that follows the reversed text `before`. -/
def lowerAfter (before : Text) : Text → Text
  | [] => []
  | c :: rest =>
    (if c = 'Σ' then [lowerSigma before rest] else lowerChar c) ++ lowerAfter (c :: before) rest

/-- The lowercase form of a text. -/
def toLower (text : Text) : Text :=
  lowerAfter [] text

/-- Whether two texts are equal up to the case of ASCII letters. -/
def sameWord (left right : Text) : Bool :=
  left.map Char.toLower == right.map Char.toLower

end Text

end TutorialPages
