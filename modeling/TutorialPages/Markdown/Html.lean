import TutorialPages.Markdown.Character
import TutorialPages.Text.LetterCase

/-!
# Writing HTML

The characters that HTML gives a meaning are written as references, and NUL as the replacement
character. HTML that is passed through keeps its marks, except that the tags which change how the
rest of a page is read lose their opening bracket. Addresses are percent-encoded and may use a few
protocols only.
-/

namespace TutorialPages.Markdown.Html

/-- One character of a text that must not be read as HTML. -/
def encodeChar (c : Char) : Text :=
  match c with
  | '&' => "&amp;"
  | '"' => "&quot;"
  | '<' => "&lt;"
  | '>' => "&gt;"
  | '\x00' => ['\uFFFD']
  | c => [c]

/-- A text that must not be read as HTML. -/
def encode (text : Text) : Text :=
  text.flatMap encodeChar

/-- A text that is passed through. -/
def passThrough (text : Text) : Text :=
  text.map fun c => if c = '\x00' then '\uFFFD' else c

/-- The tags that are not passed through. -/
def filteredTags : List Text :=
  ["iframe", "noembed", "noframes", "plaintext", "script", "style", "textarea", "title", "xmp"]

/-- Whether what follows a `<` is the name of a filtered tag, closing or not. -/
def startsFilteredTag (text : Text) : Bool :=
  let text := if text.head? = some '/' then text.drop 1 else text
  let name := text.takeWhile Char.isAlpha
  filteredTags.contains (name.map Char.toLower) &&
    match text.drop name.length with
    | [] => true
    | c :: _ => isGap c || c == '\x0c' || c == '/' || c == '>'

/-- Takes the bracket from filtered tags. -/
def filterTags : Text → Text
  | [] => []
  | '<' :: rest =>
    if startsFilteredTag rest then "&lt;".toList ++ filterTags rest else '<' :: filterTags rest
  | c :: rest => c :: filterTags rest

/-- Whether a character of an address stands for itself. -/
def isSafe (c : Char) : Bool :=
  c.isAlphanum || "!#$&'()*+,-./:;=?@_~".toList.contains c

/-- The capital hexadecimal digit of a number below sixteen. -/
def capitalHexDigit (n : Nat) : Char :=
  if n < 10 then Char.ofNat (48 + n) else Char.ofNat (55 + n)

/-- The percent-encoded UTF-8 bytes of a character. -/
def percentEncode (c : Char) : Text :=
  (Text.toUtf8 [c]).flatMap fun byte =>
    ['%', capitalHexDigit (byte.toNat / 16), capitalHexDigit (byte.toNat % 16)]

/-- Percent-encodes what is not safe and is not yet encoded. -/
def percentEncodeUnsafe : Text → Text
  | [] => []
  | '%' :: a :: b :: rest =>
    if a.isAlphanum && b.isAlphanum then '%' :: a :: b :: percentEncodeUnsafe rest
    else percentEncode '%' ++ percentEncodeUnsafe (a :: b :: rest)
  | c :: rest =>
    (if isSafe c then [c] else percentEncode c) ++ percentEncodeUnsafe rest

/-- An address as the value of an attribute. -/
def address (text : Text) : Text :=
  encode (percentEncodeUnsafe text)

/-- The protocol that an address names: what stands before its first colon, unless a slash, a
question mark or a number sign comes first. -/
def protocol? (address : Text) : Option Text :=
  let front := address.takeWhile fun c => !(c == ':' || c == '?' || c == '#' || c == '/')
  match address.drop front.length with
  | ':' :: _ => some (front.map Char.toLower)
  | _ => none

/-- An address that names no protocol or one of those given; any other becomes empty. -/
def safeAddress (protocols : List Text) (text : Text) : Text :=
  let written := address text
  match protocol? written with
  | some protocol => if protocols.contains protocol then written else []
  | none => written

/-- The protocols of links. -/
def linkProtocols : List Text :=
  ["http", "https", "irc", "ircs", "mailto", "xmpp"]

/-- The protocols of images. -/
def imageProtocols : List Text :=
  ["http", "https"]

end TutorialPages.Markdown.Html
