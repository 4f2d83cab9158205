import TutorialPages.Markdown.Autolink
import TutorialPages.Markdown.CodeSpan
import TutorialPages.Markdown.Dialect
import TutorialPages.Markdown.Emphasis
import TutorialPages.Markdown.HtmlTag
import TutorialPages.Markdown.LiteralLink

/-!
# Reading inlines

A text is read from left to right. Escapes, references, code, HTML and addresses are taken as they
come. An opening bracket waits for the closing one, which makes a link, an image or the call of a
footnote if what follows it or a definition says where it leads; otherwise both stand for
themselves. Emphasis is settled last, inside each bracket by itself.
-/

namespace TutorialPages.Markdown

/-- What the reading of a text depends on. -/
structure InlineContext where
  dialect : Dialect
  /-- The targets that labels name. -/
  targets : List (Text × Target)
  /-- The names of the footnotes. -/
  footnotes : List Text
  /-- Whether the text is a cell of a table. -/
  inTable : Bool
  /-- The lines of the text, each with the number of characters that are left at its beginning. -/
  lines : List (Nat × TextLine)
  /-- The character before the text. -/
  before : Option Char
  /-- The character behind the text. -/
  next : Option Char

/-- What an opening bracket may begin. -/
inductive OpenerKind where
  | link
  | image
  | footnote
  deriving DecidableEq, Repr

/-- How an opening bracket is written. -/
def OpenerKind.mark : OpenerKind → Text
  | .link => "["
  | .image => "!["
  | .footnote => "[^"

/-- An opening bracket. -/
structure Opener where
  kind : OpenerKind
  /-- Whether neither a link nor the call of a footnote has been found inside it. -/
  active : Bool
  /-- The text behind it. -/
  after : Text

/-- A part of a text while its brackets are being read. -/
inductive Piece where
  | span (span : Span)
  | opener (opener : Opener)

namespace Piece

/-- A piece of text as it is written. -/
def text (value : Text) : Piece :=
  .span (.inline (.text value))

/-- A piece that is one inline. -/
def inline (part : Inline) : Piece :=
  .span (.inline part)

/-- The span that a piece is when a bracket of it stands for itself. -/
def settled : Piece → Span
  | .span part => part
  | .opener bracket => .inline (.text bracket.kind.mark)

/-- The last opening bracket among pieces, last one first, with the spans behind it, in order, and
the pieces before it. -/
def findOpener : List Span → List Piece → Option (List Span × Opener × List Piece)
  | _, [] => none
  | inner, .opener bracket :: outer => some (inner, bracket, outer)
  | inner, .span part :: outer => findOpener (part :: inner) outer

/-- Keeps what is before a link or the call of a footnote from being the beginning of a link around
it. -/
def deactivate : Piece → Piece
  | .opener bracket =>
    .opener (if bracket.kind = .image then bracket else { bracket with active := false })
  | piece => piece

end Piece

namespace InlineReader

/-- Whether a character never begins anything but text. -/
def isPlain (c : Char) : Bool :=
  !(isGap c || "!&*<HW[\\]_`hw~".toList.contains c)

/-- A part of the text as it stands in the document, given the text from its beginning on. -/
def written (context : InlineContext) (start part : Text) : Text :=
  Passage.written context.lines start.length part

/-- Where a label leads that nothing but itself says. -/
def defined? (context : InlineContext) (label : Text) : Option Target :=
  context.targets.lookup (normalizeLabel label)

/-- Where a closed bracket leads, and what follows it: a target in parentheses, another label, an
empty label, or the label itself. -/
def target? (context : InlineContext) (label : Text) (rest : Text) : Option (Target × Text) :=
  let shortcut := (defined? context label).map fun target => (target, rest)
  match rest with
  | '(' :: inner => Target.inParentheses? inner <|> shortcut
  | '[' :: ']' :: after => (defined? context label).map fun target => (target, after)
  | '[' :: inner => do
    let (other, after) ← Label.read? inner
    let target ← defined? context (written context inner other)
    some (target, after)
  | _ => shortcut

/-- What a closing bracket makes of the opening one, with what follows it. -/
def closed? (context : InlineContext) (opener : Opener) (inner : List Span) (rest : Text) :
    Option (Inline × Text) :=
  let label := written context opener.after
    (opener.after.take (opener.after.length - rest.length - 1))
  if !opener.active then none
  else match opener.kind with
    | .image =>
      (target? context label rest).map fun (target, after) =>
        (.image target (Span.settle inner), after)
    | .link =>
      (target? context label rest).map fun (target, after) =>
        (.link target (Span.settle inner), after)
    | .footnote =>
      let name := normalizeLabel label
      if context.footnotes.contains name then some (.footnoteCall name, rest)
      else
        (target? context ('^' :: label) rest).map fun (target, after) =>
          (.link target (Span.settle (.inline (.text ['^']) :: inner)), after)

/-- Reads a closing bracket that `rest` follows. -/
def closeBracket (context : InlineContext) (pieces : List Piece) (rest : Text) :
    List Piece × Text :=
  match Piece.findOpener [] pieces with
  | none => (.text [']'] :: pieces, rest)
  | some (inner, opener, outer) =>
    match closed? context opener inner rest with
    | none =>
      (.text [']'] :: ((inner.reverse.map Piece.span) ++ .text opener.kind.mark :: outer), rest)
    | some (found, after) =>
      let outer := match found with
        | .image .. => outer
        | _ => outer.map Piece.deactivate
      (.inline found :: outer, after)

/-- Drops the spaces and tabs behind the line endings of a tag. -/
def dropIndents : Text → Text
  | [] => []
  | c :: rest =>
    if isEnding c then c :: (dropIndents rest).dropWhile isSpace else c :: dropIndents rest

/-- What stands between two positions of a text, given what follows either. -/
def consumed (before after : Text) : Text :=
  before.take (before.length - after.length)

/-- What a `<` begins: an address or a piece of HTML. -/
def angle? (context : InlineContext) (rest : Text) : Option (Inline × Text) :=
  match Autolink.read? rest with
  | some ((protocol, value), after) => some (.autolink protocol value, after)
  | none =>
    if context.dialect.html then
      (afterInlineHtml? rest).map fun after =>
        (.html (dropIndents ('<' :: consumed rest after)), after)
    else none

/-- What is left of the indentation of a line, given the number of characters that are left at its
beginning: one character, where it begins inside a tab. -/
def indent (context : InlineContext) (left : Nat) : List Piece :=
  match (context.lines.lookup left).bind TextLine.torn with
  | some c => [.span (.indent c)]
  | none => []

/-- What stands at the front of a text, as pieces before which others stand, with what follows it.
`previous` is the character before it, other than at the front of all. -/
def readOne (context : InlineContext) (previous : Option Char) (pieces : List Piece) :
    Text → List Piece × Text
  | [] => (pieces, [])
  | c :: rest =>
    let alone := (.text [c] :: pieces, rest)
    let gfm := context.dialect.gfm
    if isSpace c then
      let space := (c :: rest).takeWhile isSpace
      let after := (c :: rest).drop space.length
      match after with
      | [] => (pieces, [])
      | d :: _ =>
        if !isEnding d then (.text space :: pieces, after)
        else if 2 ≤ space.length && space.all (· == ' ') then (.inline .hardBreak :: pieces, after)
        else (pieces, after)
    else if isEnding c then
      let ending := if c = '\r' ∧ rest.head? = some '\n' then ['\r', '\n'] else [c]
      let line := (c :: rest).drop ending.length
      (indent context line.length ++ .inline (.ending ending) :: pieces, line.dropWhile isSpace)
    else if c = '`' then
      let run := (c :: rest).takeWhile (· == '`')
      let after := (c :: rest).drop run.length
      match CodeSpan.read? context.inTable run.length after with
      | some (code, after) => (.inline (.code code) :: pieces, after)
      | none => (.text run :: pieces, after)
    else if c = '*' ∨ c = '_' ∨ (c = '~' ∧ gfm) then
      let run := (c :: rest).takeWhile (· == c)
      let after := (c :: rest).drop run.length
      let marks := MarkRun.between gfm (previous <|> context.before) c run.length
        (after.head? <|> context.next)
      (.span (.marks marks) :: pieces, after)
    else if c = '\\' then
      match rest with
      | d :: after =>
        if isAsciiPunctuation d then (.inline (.decoded [d]) :: pieces, after)
        else if isEnding d then (.inline .hardBreak :: pieces, rest)
        else alone
      | [] => alone
    else if c = '&' then
      match Reference.read? rest with
      | some (value, after) => (.inline (.decoded value) :: pieces, after)
      | none => alone
    else if c = '<' then
      match angle? context rest with
      | some (found, after) => (.inline found :: pieces, after)
      | none => alone
    else if c = '!' then
      match rest with
      | '[' :: after =>
        if gfm ∧ after.head? = some '^' then alone
        else (.opener ⟨.image, true, after⟩ :: pieces, after)
      | _ => alone
    else if c = '[' then
      match rest with
      | '^' :: after =>
        if gfm then (.opener ⟨.footnote, true, after⟩ :: pieces, after)
        else (.opener ⟨.link, true, rest⟩ :: pieces, rest)
      | _ => (.opener ⟨.link, true, rest⟩ :: pieces, rest)
    else if c = ']' then closeBracket context pieces rest
    else
      match if gfm then LiteralLink.read? previous context.next (c :: rest) else none with
      | some (found, after) => (.inline found :: pieces, after)
      | none =>
        let plain := rest.takeWhile isPlain
        (.text (c :: plain) :: pieces, rest.drop plain.length)

/-- The character before a text, given what comes before it: behind the ending of a line, the last
mark of a container on the next line. -/
def previous? (context : InlineContext) (before after : Text) : Option Char :=
  let last := before.getLast?
  if last.any isEnding then
    (context.lines.lookup after.length).bind (·.before.getLast?) <|> last
  else last

/-- Reads a text to its end, at most `fuel` pieces of it. -/
def readAll (context : InlineContext) :
    Nat → Option Char → List Piece → Text → List Piece
  | 0, _, pieces, _ => pieces
  | _, _, pieces, [] => pieces
  | fuel + 1, previous, pieces, text =>
    let (pieces, after) := readOne context previous pieces text
    readAll context fuel (previous? context (consumed text after) after) pieces after

/-- Reads a text behind pieces, last one first. -/
def readBehind (context : InlineContext) (pieces : List Piece) (text : Text) : List Inline :=
  let pieces := readAll context text.length none pieces text
  let inlines := Span.settle (pieces.reverse.map Piece.settled)
  if context.dialect.gfm then LiteralLink.withMailLinks inlines else inlines

/-- Reads a text that something may stand before. -/
def readOpen (context : InlineContext) (text : Text) : List Inline :=
  readBehind context [] text

/-- Reads a text. Spaces and tabs at its ends do not belong to it. -/
def read (context : InlineContext) (text : Text) : List Inline :=
  let inner := text.dropWhile isSpace
  let before := if text.head?.any isSpace then text.head? else context.before
  readBehind { context with before } (indent context text.length) inner

end InlineReader

/-- The mark in brackets at the beginning of a text that stands in the given column: whether it
checks a box, and what follows the brackets. A column of space or the ending of a line leaves the
box unchecked. -/
def boxMark? (column : Nat) : Text → Option (Bool × Text)
  | '[' :: '\r' :: '\n' :: ']' :: rest => some (false, rest)
  | '[' :: '\t' :: ']' :: rest =>
    if Cursor.columnsOf (column + 1) ['\t'] = 1 then some (false, rest) else none
  | '[' :: mark :: ']' :: rest =>
    if mark = 'x' ∨ mark = 'X' then some (true, rest)
    else if isGap mark then some (false, rest)
    else none
  | _ => none

/-- The box at the very beginning of an item's text, which stands in the given column: whether it is
checked, and the text behind it, which begins with a space or on the next line. -/
def checkbox? (column : Nat) (text : Text) : Option (Bool × Text) := do
  let (isChecked, rest) ← boxMark? column text
  let c ← rest.head?
  if isEnding c ∨ isSpace c ∧ ¬rest.all isSpace then some (isChecked, rest) else none

end TutorialPages.Markdown
