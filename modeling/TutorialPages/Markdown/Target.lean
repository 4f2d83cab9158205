import TutorialPages.Markdown.Label
import TutorialPages.Markdown.Passage
import TutorialPages.Markdown.Reference

/-!
# Targets and definitions

A link or an image leads to a target, an address with an optional title. The target stands in
parentheses right after the label, or in a definition that the label names.
-/

namespace TutorialPages.Markdown

/-- Where a link or an image leads. -/
structure Target where
  address : Text
  title : Option Text
  deriving DecidableEq, Repr

namespace Target

/-- Drops the spaces, tabs and line endings at the front. -/
def skipGaps (text : Text) : Text :=
  text.dropWhile isGap

/-- The characters up to a closing mark that is not escaped, and what follows it; none of the
characters may be refused. -/
def quoted? (closing : Char) (refuses : Char → Bool) : Text → Option (Text × Text)
  | [] => none
  | '\\' :: c :: rest =>
    if c = closing ∨ c = '\\' ∨ refuses c ∧ !isEnding c then
      (quoted? closing refuses rest).map fun (inner, after) => ('\\' :: c :: inner, after)
    else (quoted? closing refuses (c :: rest)).map fun (inner, after) => ('\\' :: inner, after)
  | c :: rest =>
    if c = closing then some ([], rest)
    else if refuses c then none
    else (quoted? closing refuses rest).map fun (inner, after) => (c :: inner, after)

/-- The characters of an address without brackets and what follows it. Parentheses have to be
balanced, not more than `limit` deep; `depth` of them are open. -/
def bareAddress? (limit : Option Nat) (depth : Nat) : Text → Option (Text × Text)
  | [] => if depth = 0 then some ([], []) else none
  | '\\' :: c :: rest =>
    if c = '(' ∨ c = ')' ∨ c = '\\' then
      (bareAddress? limit depth rest).map fun (inner, after) => ('\\' :: c :: inner, after)
    else (bareAddress? limit depth (c :: rest)).map fun (inner, after) => ('\\' :: inner, after)
  | '(' :: rest =>
    if limit.all fun most => depth < most then
      (bareAddress? limit (depth + 1) rest).map fun (inner, after) => ('(' :: inner, after)
    else none
  | ')' :: rest =>
    if depth = 0 then some ([], ')' :: rest)
    else (bareAddress? limit (depth - 1) rest).map fun (inner, after) => (')' :: inner, after)
  | c :: rest =>
    if isGap c ∧ depth = 0 then some ([], c :: rest)
    else if c = ' ' ∨ isControl c ∧ c ≠ '\x00' then none
    else (bareAddress? limit depth rest).map fun (inner, after) => (c :: inner, after)

/-- An address and what follows it. -/
def address? (limit : Option Nat) : Text → Option (Text × Text)
  | [] => none
  | '<' :: rest => quoted? '>' (fun c => c == '<' || isEnding c) rest
  | c :: rest =>
    if c = ' ' ∨ c = ')' ∨ isControl c ∧ c ≠ '\x00' then none
    else bareAddress? limit 0 (c :: rest)

/-- The mark that closes a title which the given one opens. -/
def titleClosing? : Char → Option Char
  | '"' => some '"'
  | '\'' => some '\''
  | '(' => some ')'
  | _ => none

/-- A title and what follows it. -/
def title? : Text → Option (Text × Text)
  | [] => none
  | c :: rest => do quoted? (← titleClosing? c) (fun _ => false) rest

/-- The target that an address and a title stand for; an empty title is none. -/
def ofParts (address title : Text) : Target :=
  ⟨decode address, if title = [] then none else some (decode title)⟩

/-- How deep the parentheses of an address may be in a link. -/
def depthInLink : Nat := 32

/-- The target in parentheses and what follows them, given what follows the opening one. -/
def inParentheses? (text : Text) : Option (Target × Text) := do
  match skipGaps text with
  | ')' :: rest => some (⟨[], none⟩, rest)
  | text =>
    let (address, rest) ← address? (some depthInLink) text
    match skipGaps rest with
    | ')' :: after => some (ofParts address [], after)
    | next =>
      if next.length = rest.length then none
      else
        let (title, rest) ← title? next
        match skipGaps rest with
        | ')' :: after => some (ofParts address title, after)
        | _ => none

end Target

/-- A definition: the label as it stands in the document, and its target. -/
structure Definition where
  label : Text
  target : Target
  deriving DecidableEq, Repr

namespace Definition

/-- What follows the line that nothing but spaces and tabs are left of, starting at its ending. -/
def endOfLine? (text : Text) : Option Text :=
  match text.dropWhile isSpace with
  | [] => some []
  | c :: rest => if isEnding c then some (c :: rest) else none

/-- The label at the start of a text, what is left of the text where the label begins, and what
follows the colon behind it. -/
def label? (text : Text) : Option (Text × Text × Text) := do
  match text.dropWhile isSpace with
  | '[' :: inner =>
    let (label, rest) ← Label.read? inner
    match rest with
    | ':' :: rest => some (label, inner, rest)
    | _ => none
  | _ => none

/-- The target at the start of a text and what follows its last line, starting at the ending of that
line. -/
def target? (text : Text) : Option (Target × Text) := do
  let (address, rest) ← Target.address? none (Target.skipGaps text)
  let next := Target.skipGaps rest
  let titled : Option (Target × Text) := do
    if next.length = rest.length then none
    else
      let (title, after) ← Target.title? next
      some (.ofParts address title, ← endOfLine? after)
  titled <|> (endOfLine? rest).map fun after => (.ofParts address [], after)

/-- How many lines a number of characters takes up, with or without the ending of the last of
them. -/
def linesOf : List TextLine → Nat → Nat
  | [], _ => 0
  | line :: others, count =>
    if count ≤ line.characters.length then 1
    else 1 + linesOf others (count - line.characters.length)

/-- The definition that lines begin with, and the number of lines that it takes up. -/
def read? (lines : List TextLine) : Option (Definition × Nat) := do
  let text := (Passage.ofLines lines).text
  let (label, start, rest) ← label? text
  let (target, rest) ← target? rest
  let label := Passage.written (Passage.starts lines) start.length label
  some (⟨label, target⟩, linesOf lines (text.length - rest.length))

end Definition

end TutorialPages.Markdown
