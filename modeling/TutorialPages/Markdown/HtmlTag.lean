import TutorialPages.Markdown.Character

/-!
# The grammar of tags

Tags inside a line of text and tags that begin a block follow nearly one grammar. A machine reads
them character by character: it goes on in some state, finds the end of the tag, or refuses the
character. A tag in text may run over line endings and is stricter about bare attribute values; a
tag that begins a block lies on one line.
-/

namespace TutorialPages.Markdown

namespace HtmlTag

/-- Where in a tag the machine is. -/
inductive State where
  /-- In the name of an opening tag. -/
  | name
  /-- Between attributes. -/
  | between
  /-- In the name of an attribute. -/
  | attribute
  /-- After the name of an attribute. -/
  | afterAttribute
  /-- Before the value of an attribute. -/
  | beforeValue
  /-- In a value that the given mark closes. -/
  | quoted (closing : Char)
  /-- After the mark that closed a value. -/
  | afterQuoted
  /-- In a bare value. -/
  | bare
  /-- Before the closing bracket, where nothing else may stand. -/
  | last
  /-- In the name of a closing tag. -/
  | closingName
  /-- After the name of a closing tag. -/
  | afterClosingName
  deriving DecidableEq, Repr

/-- What one character leads to. -/
inductive Step where
  /-- The tag goes on. -/
  | goOn (state : State)
  /-- The tag ends with this character. -/
  | ends
  /-- There is no tag. -/
  | refuse
  deriving DecidableEq, Repr

/-- Whether a character may stand in the name of a tag. -/
def isNameChar (c : Char) : Bool :=
  c.isAlphanum || c == '-'

/-- Whether a character may stand in the name of an attribute. -/
def isAttributeChar (c : Char) : Bool :=
  c.isAlphanum || c == '-' || c == '.' || c == ':' || c == '_'

/-- Whether a character may begin the name of an attribute; before a block, a digit may too. -/
def startsAttribute (inBlock : Bool) (c : Char) : Bool :=
  c.isAlpha || c == ':' || c == '_' || (inBlock && c.isDigit)

/-- Only the closing bracket is left. -/
def stepLast (c : Char) : Step :=
  if c = '>' then .ends else .refuse

/-- A character between attributes. -/
def stepBetween (inBlock : Bool) (c : Char) : Step :=
  if c = '/' then .goOn .last
  else if startsAttribute inBlock c then .goOn .attribute
  else if isGap c then .goOn .between
  else stepLast c

/-- A character after the name of an attribute. -/
def stepAfterAttribute (inBlock : Bool) (c : Char) : Step :=
  if c = '=' then .goOn .beforeValue
  else if isGap c then .goOn .afterAttribute
  else stepBetween inBlock c

/-- A character after the name of a closing tag. -/
def stepAfterClosingName (c : Char) : Step :=
  if isGap c then .goOn .afterClosingName else stepLast c

/-- Whether a bare value cannot hold the character. -/
def endsBare (c : Char) : Bool :=
  c == '"' || c == '\'' || c == '<' || c == '=' || c == '`'

/-- The machine. -/
def step (inBlock : Bool) (state : State) (c : Char) : Step :=
  match state with
  | .name =>
    if isNameChar c then .goOn .name
    else if isGap c || c == '/' || c == '>' then stepBetween inBlock c
    else .refuse
  | .between => stepBetween inBlock c
  | .attribute =>
    if isAttributeChar c then .goOn .attribute else stepAfterAttribute inBlock c
  | .afterAttribute => stepAfterAttribute inBlock c
  | .beforeValue =>
    if c = '<' ∨ c = '=' ∨ c = '>' ∨ c = '`' then .refuse
    else if c = '"' ∨ c = '\'' then .goOn (.quoted c)
    else if isGap c then .goOn .beforeValue
    else .goOn .bare
  | .quoted closing => if c = closing then .goOn .afterQuoted else .goOn (.quoted closing)
  | .afterQuoted =>
    if isGap c || c == '/' || c == '>' then stepBetween inBlock c else .refuse
  | .bare =>
    if isGap c || c == '/' || c == '>' then
      if inBlock then stepAfterAttribute inBlock c else stepBetween inBlock c
    else if endsBare c then
      if inBlock then stepAfterAttribute inBlock c else .refuse
    else .goOn .bare
  | .last => stepLast c
  | .closingName => if isNameChar c then .goOn .closingName else stepAfterClosingName c
  | .afterClosingName => stepAfterClosingName c

/-- What reading leads to. -/
inductive Reading where
  /-- The tag has ended, and the text follows it. -/
  | ended (rest : Text)
  /-- There is no tag. -/
  | refused
  /-- The text is over before the tag is. -/
  | unfinished
  deriving DecidableEq, Repr

/-- Reads the rest of a tag. -/
def read (inBlock : Bool) (state : State) : Text → Reading
  | [] => .unfinished
  | c :: rest =>
    match step inBlock state c with
    | .goOn next => read inBlock next rest
    | .ends => .ended rest
    | .refuse => .refused

/-- What follows a tag inside a text, given what follows its opening bracket. -/
def rest? (text : Text) : Option Text :=
  let reading := match text with
    | '/' :: c :: rest => if c.isAlpha then read false .closingName rest else .refused
    | c :: rest => if c.isAlpha then read false .name rest else .refused
    | [] => .unfinished
  match reading with
  | .ended rest => some rest
  | _ => none

end HtmlTag

/-- What follows the first occurrence of a mark. -/
def afterMark? (mark : Text) : Text → Option Text
  | [] => none
  | c :: rest =>
    if mark.isPrefixOf (c :: rest) then some ((c :: rest).drop mark.length)
    else afterMark? mark rest

/-- What follows a piece of HTML inside text, given what follows its opening bracket: a comment, a
character data section, a declaration, an instruction, or a tag. -/
def afterInlineHtml? (text : Text) : Option Text :=
  match text with
  | '!' :: '-' :: '-' :: rest => afterMark? "-->" ('-' :: '-' :: rest)
  | '!' :: '[' :: 'C' :: 'D' :: 'A' :: 'T' :: 'A' :: '[' :: rest => afterMark? "]]>" rest
  | '!' :: c :: rest => if c.isAlpha then afterMark? ">" (c :: rest) else none
  | '?' :: rest => afterMark? "?>" rest
  | text => HtmlTag.rest? text

end TutorialPages.Markdown
