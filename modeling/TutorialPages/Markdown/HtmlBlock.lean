import TutorialPages.Markdown.HtmlTag

/-!
# HTML blocks

A line that begins with certain tags or other marks of HTML begins a block that is passed through
as it stands. What begins it decides what ends it: a mark that is found on a line, the first line
included, or else the next blank line.
-/

namespace TutorialPages.Markdown

/-- What an HTML block began with, and so what ends it. -/
inductive HtmlBlock where
  /-- A tag whose contents are not HTML; the closing tag of any such ends it. -/
  | raw
  /-- A comment, which its closing mark ends. -/
  | comment
  /-- An instruction, which its closing mark ends. -/
  | instruction
  /-- A declaration, which its closing bracket ends. -/
  | declaration
  /-- A character data section, which its closing mark ends. -/
  | characterData
  /-- A tag of the structure of a page; a blank line ends the block. -/
  | structural
  /-- Any other tag that has its line to itself; a blank line ends the block. -/
  | complete
  deriving DecidableEq, Repr

namespace HtmlBlock

/-- The tags whose contents are not HTML. -/
def rawNames : List Text :=
  ["pre", "script", "style", "textarea"]

/-- The tags of the structure of a page. -/
def structuralNames : List Text :=
  List.map String.toList ["address", "article", "aside", "base", "basefont", "blockquote", "body",
    "caption", "center", "col", "colgroup", "dd", "details", "dialog", "dir", "div", "dl", "dt",
    "fieldset", "figcaption", "figure", "footer", "form", "frame", "frameset", "h1", "h2", "h3",
    "h4", "h5", "h6", "head", "header", "hr", "html", "iframe", "legend", "li", "link", "main",
    "menu", "menuitem", "nav", "noframes", "ol", "optgroup", "option", "p", "param", "search",
    "section", "summary", "table", "tbody", "td", "tfoot", "th", "thead", "title", "tr", "track",
    "ul"]

/-- Whether a closing tag of `rawNames` stands somewhere in the text. -/
def hasRawClosing : Text → Bool
  | [] => false
  | '<' :: '/' :: rest =>
    let name := rest.takeWhile Char.isAlpha
    (rawNames.contains (name.map Char.toLower) && (rest.drop name.length).head? == some '>') ||
      hasRawClosing ('/' :: rest)
  | _ :: rest => hasRawClosing rest

/-- Whether the closing mark of a character data section stands somewhere in the text. Brackets are
taken in pairs. -/
def hasDataClosing : Text → Bool
  | ']' :: ']' :: rest => rest.head? == some '>' || hasDataClosing rest
  | _ :: rest => hasDataClosing rest
  | [] => false

/-- Whether a text ends the block. -/
def endsIn (block : HtmlBlock) (text : Text) : Bool :=
  match block with
  | .raw => hasRawClosing text
  | .comment => (afterMark? "-->" text).isSome
  | .instruction => (afterMark? "?>" text).isSome
  | .declaration => (afterMark? ">" text).isSome
  | .characterData => hasDataClosing text
  | .structural | .complete => false

/-- Whether a blank line ends the block. -/
def endsAtBlank : HtmlBlock → Bool
  | .structural | .complete => true
  | _ => false

/-- What the front of a line is as the beginning of HTML. -/
inductive Start where
  /-- It begins a block; the end of the block is looked for in the text. -/
  | begins (block : HtmlBlock) (text : Text)
  /-- It begins none. -/
  | refused
  /-- It begins none, but might if the line went on. -/
  | unfinished
  deriving DecidableEq, Repr

/-- What a tag begins that is neither raw nor structural, given what follows its name: it has to be
complete and alone on its line. -/
def completeStart (isClosing : Bool) (after : Text) : Start :=
  match HtmlTag.read true (if isClosing then .closingName else .name) after with
  | .ended rest => if rest.all isSpace then .begins .complete rest else .refused
  | .refused => .refused
  | .unfinished => .unfinished

/-- What a tag begins, given what follows its opening bracket. A tag that `isClosing` holds of is
taken for a closing one in any case. -/
def tagStart (mayBeComplete isClosing : Bool) (text : Text) : Start :=
  let inner := if text.head? = some '/' then text.drop 1 else text
  let isClosing := isClosing || text.head? == some '/'
  let name := inner.takeWhile HtmlTag.isNameChar
  let after := inner.drop name.length
  let word := name.map Char.toLower
  if inner = [] then .unfinished
  else if !(name.head?.any Char.isAlpha) then .refused
  else if !(after.head?.all fun c => isGap c || c == '/' || c == '>') then .refused
  else if !isClosing && after.head? != some '/' && rawNames.contains word then .begins .raw text
  else if structuralNames.contains word then
    match after with
    | ['/'] => .unfinished
    | '/' :: c :: _ => if c = '>' then .begins .structural text else .refused
    | _ => .begins .structural text
  else if mayBeComplete then completeStart isClosing after
  else if after = [] then .unfinished
  else .refused

/-- What the mark of a character data section begins with. -/
def dataMark : Text := "<!["

/-- What follows it in that mark. -/
def dataName : Text := "CDATA["

/-- What a line begins, given the line without its indentation. A tag that `isClosing` holds of is
taken for a closing one in any case, and of the mark of a character data section the given number of
characters counts as read. -/
def start (mayBeComplete isClosing : Bool) (counted : Nat) : Text → Start
  | ['<', '!'] | ['<', '!', '-'] => .unfinished
  | '<' :: '!' :: '-' :: '-' :: rest => .begins .comment ('-' :: '-' :: rest)
  | '<' :: '!' :: '[' :: rest =>
    let name := dataName.drop counted
    if name.isPrefixOf rest then .begins .characterData (rest.drop name.length)
    else if rest.isPrefixOf name then .unfinished
    else .refused
  | '<' :: '!' :: c :: rest => if c.isAlpha then .begins .declaration rest else .refused
  | '<' :: '?' :: rest => .begins .instruction ('?' :: rest)
  | '<' :: rest => tagStart mayBeComplete isClosing rest
  | _ => .refused

/-- Whether the front of a line, given without its indentation, is read as the name of a tag. -/
def namesTag : Text → Bool
  | '<' :: c :: _ => c == '/' || c.isAlpha
  | _ => false

end HtmlBlock

end TutorialPages.Markdown
