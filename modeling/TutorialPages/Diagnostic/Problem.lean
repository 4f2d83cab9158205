import TutorialPages.Diagnostic.Location
import TutorialPages.Directive.Vocabulary
import TutorialPages.Files.Source
import TutorialPages.Renderer

/-!
# Problems

What can go wrong on a line, with the words for it. A failure is a problem together with the line
it arose from.
-/

namespace TutorialPages

/-- What went wrong on a line. -/
inductive Problem where
  /-- The directive begins with no method and marks no page. -/
  | unknownDirective (directive : Text)
  /-- A word lies outside its vocabulary; it is given in upper case, with the first related word. -/
  | unacceptedWord (field : Field) (value : Text) (suggestion : Option Text)
  /-- The expected count is no number. -/
  | invalidNumber (token : Text)
  /-- There is no command to run. -/
  | emptyCommand (method : Method)
  /-- There is nothing to check for. -/
  | emptyTarget (method : Method)
  /-- There are too few arguments. -/
  | missingArgument (method : Method)
  /-- There are too many arguments; the surplus is given with single spaces. -/
  | trailingTokens (method : Method) (tokens : Text)
  /-- A file cannot be read, or is not named properly. -/
  | unreadable (path : Path) (failure : ReadFailure)
  /-- Text follows a post-check of the same page. -/
  | textAfterPostCheck
  /-- A page ends without command, check or text. -/
  | emptyPage
  /-- A command stands outside of any page. -/
  | commandOutsidePage (method : Method)
  /-- A page is closed while none is open. -/
  | unexpectedEndPage
  /-- A page is still open at the end of the document. -/
  | unterminatedPage
  /-- The renderer refused a fragment. -/
  | refused (error : RenderError)
  deriving DecidableEq, Repr

/-- The words for a problem. -/
def Problem.message : Problem → Text
  | .unknownDirective directive =>
    .join ["Could not match `", directive, "` to a command, accepted commands are ",
      acceptedDirectives]
  | .unacceptedWord field value (some suggestion) =>
    .join ["Provided ", field.label, " ", value, " does not match the accepted ", field.label,
      "s, did you mean ", suggestion, "?"]
  | .unacceptedWord field value none =>
    .join ["Provided ", field.label, " ", value, " does not match the accepted ", field.label,
      "s ", Text.joinWith ", " field.words]
  | .invalidNumber token => .join ["Could not parse ", token, " into a number"]
  | .emptyCommand method => .join ["No command to execute specified for ", method.word]
  | .emptyTarget method => .join ["No target specified for ", method.word]
  | .missingArgument method =>
    .join ["Not enough arguments for ", method.word, ", expected `", method.usage, "`"]
  | .trailingTokens method tokens =>
    .join ["Unexpected `", tokens, "` after ", method.word, ", expected `", method.usage,
      "`"]
  | .unreadable path failure => .join ["Could not read file ", path, ": ", failure.reason]
  | .textAfterPostCheck =>
    "Can't enter Markdown content after a post-check, did you mean to start a new page?"
  | .emptyPage => "Page closed but no pre-commands, post-checks, or text was provided"
  | .commandOutsidePage method =>
    .join [method.word, " appears outside of a page, did you forget START PAGE?"]
  | .unexpectedEndPage => "END PAGE without a matching START PAGE"
  | .unterminatedPage => "Page opened here was never closed with END PAGE"
  | .refused error => .join ["Render error: ", error.reason]

/-- A problem with the line it arose from. -/
structure Failure where
  location : Location
  /-- The line as it stands in the document. -/
  lineText : Text
  problem : Problem
  deriving DecidableEq, Repr

/-- The words for a failure. -/
def Failure.message (failure : Failure) : Text :=
  .join ["Error at ", failure.location.text, "\nLine was: ", failure.lineText, "\nError was: ",
    failure.problem.message]

end TutorialPages
