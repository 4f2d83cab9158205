import TutorialPages.Diagnostic.Problem
import TutorialPages.Text.Base64
import TutorialPages.Text.Blank
import TutorialPages.Traced

/-!
# Images

A line of text refers to an image when `![` occurs in it. The name of the image's file stands
between the first opening parenthesis of the line and the closing one that ends it. The file is
embedded as base64.
-/

namespace TutorialPages

/-- A file embedded beside the text of its page. -/
structure Asset where
  /-- The name that the text refers to. -/
  name : Text
  /-- The contents in base64. -/
  content : Text
  deriving DecidableEq, Repr

namespace Image

/-- Whether a line refers to an image. -/
def isReference (line : Text) : Bool :=
  Text.occursIn ['!', '['] line

/-- The text less the closing parenthesis at its end, when it has one. -/
def unclosed? (text : Text) : Option Text :=
  match text.reverse with
  | ')' :: front => some front.reverse
  | _ => none

/-- The file name that a line refers to. -/
def fileName? (line : Text) : Option Text := do
  let inner ← unclosed? (Text.trimEnd (← Text.after? '(' line))
  let name := Text.trim inner
  if name = [] then none else some name

/-- The failure of a line that names no file. -/
def malformed (line : Text) : Problem :=
  .unreadable (Text.trim ((Text.after? '(' line).getD line))
    ⟨.invalidInput, .join ["malformed image reference `", Text.trim line, "`"]⟩

/-- Embeds the image that a line refers to. -/
def embed (files : FileSource) (base : Path) (line : Text) : Traced Problem Asset :=
  match fileName? line with
  | none => .fail (malformed line)
  | some name => do
    let path := Path.below base name
    .emit (.read .bytes path)
    match files.readBytes path with
    | .error failure => .fail (.unreadable path failure)
    | .ok bytes =>
      .log .debug (.join ["embedded asset ", name, " (", Text.ofNat bytes.length, " bytes)"])
      return ⟨name, Base64.encode bytes⟩

end Image

end TutorialPages
