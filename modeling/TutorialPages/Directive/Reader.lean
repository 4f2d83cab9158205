import TutorialPages.Directive.Basic
import TutorialPages.Directive.Keyword
import TutorialPages.Text.Blank
import TutorialPages.Text.Integer
import TutorialPages.Traced

/-!
# Reading a directive line

A directive line begins with an arrow. What follows is trimmed and cut into words. A body that
spells `STARTPAGE` or `ENDPAGE`, whatever its spacing and case, marks a page; otherwise the first
word names the method and the others are its arguments. Only the methods that embed a file touch
the file source.
-/

namespace TutorialPages.Directive

/-- The characters that a directive line begins with. -/
def marker : Text := ['-', '>']

/-- Whether a line is a directive line. -/
def isMarked (line : Text) : Bool :=
  marker.isPrefixOf line

/-- What stands after the marker, trimmed; the whole line when it has no marker. -/
def body (line : Text) : Text :=
  Text.trim (if isMarked line then line.drop marker.length else line)

/-- The characters of a body that are not blank, each in upper case. -/
def letters (body : Text) : Text :=
  (body.filter fun c => !isBlank c).flatMap upperChar

/-- Whether a body opens a page. -/
def isStartPage (body : Text) : Bool :=
  letters body == "STARTPAGE".toList

/-- Whether a body closes a page. -/
def isEndPage (body : Text) : Bool :=
  letters body == "ENDPAGE".toList

/-- The word before the namespace of a condition. -/
def namespaceWord : Text := "NAMESPACE"

/-- The value of the expected count. -/
def count (token : Text) : Except Problem Int64 :=
  match Text.int64? token with
  | some value => .ok value
  | none => .error (.invalidNumber token)

/-- The condition of the six main arguments; the second and the fourth only make it read well. -/
def conditionOf (kind target operator value : Text) (inNamespace : Option Text) :
    Except Problem Condition := do
  let kind ← Vocabulary.ofToken ResourceKind kind
  let operator ← Vocabulary.ofToken Operator operator
  let value ← count value
  return ⟨kind, target, operator, value, inNamespace⟩

/-- The condition that the arguments of a method state. After the six main arguments there may be a
namespace behind its word, and nothing else. -/
def condition (method : Method) : List Text → Except Problem Condition
  | kind :: _ :: target :: _ :: operator :: value :: surplus =>
    let tooMany := .error (.trailingTokens method (Text.joinWith [' '] surplus))
    match surplus with
    | [] => conditionOf kind target operator value none
    | [word] =>
      if Text.sameWord word namespaceWord then .error (.missingArgument method) else tooMany
    | [word, place] =>
      if Text.sameWord word namespaceWord then conditionOf kind target operator value (some place)
      else tooMany
    | _ => tooMany
  | _ => .error (.missingArgument method)

/-- The arguments with single spaces between them; none at all is a problem. -/
def spoken (absence : Problem) (arguments : List Text) : Except Problem Text :=
  match arguments with
  | [] => .error absence
  | arguments => .ok (Text.joinWith [' '] arguments)

/-- The file that the single argument of a method names, read below the base path. -/
def embeddedFile (files : FileSource) (base : Path) (method : Method) :
    List Text → Traced Problem EmbeddedFile
  | [] => .fail (.missingArgument method)
  | [name] => do
    let path := Path.below base name
    .emit (.read .text path)
    match files.readText path with
    | .ok value => return ⟨name, value⟩
    | .error failure => .fail (.unreadable path failure)
  | _ :: surplus => .fail (.trailingTokens method (Text.joinWith [' '] surplus))

/-- The directive of a method with its arguments. -/
def ofArguments (files : FileSource) (base : Path) (method : Method) (arguments : List Text) :
    Traced Problem Directive :=
  match method with
  | .apply => do return .pre (.apply (← embeddedFile files base method arguments))
  | .includeFile => do return .pre (.includeFile (← embeddedFile files base method arguments))
  | .wait => do return .pre (.wait (← .ofExcept (condition method arguments)))
  | .check => do return .post (.check (← .ofExcept (condition method arguments)))
  | .execCommand => do
    return .pre (.execCommand (← .ofExcept (spoken (.emptyCommand method) arguments)))
  | .commandWait => do
    return .post (.commandWait (← .ofExcept (spoken (.emptyCommand method) arguments)))
  | .fileCheck => do
    return .post (.fileCheck (← .ofExcept (spoken (.emptyTarget method) arguments)))
  | .checkCommandOut => do
    return .post (.checkCommandOut (← .ofExcept (spoken (.emptyTarget method) arguments)))

/-- The directive that the words of a body state; `body` is what a failure quotes. -/
def ofWords (files : FileSource) (base : Path) (body : Text) :
    List Text → Traced Problem Directive
  | [] => .fail (.unknownDirective body)
  | first :: arguments =>
    match Method.ofWord? first with
    | none => .fail (.unknownDirective body)
    | some method => do
      let directive ← ofArguments files base method arguments
      .log .trace (.join ["tokenized ", method.word, " directive"])
      return directive

/-- The directive on a line. -/
def read (files : FileSource) (base : Path) (line : Text) : Traced Problem Directive :=
  let body := body line
  if isStartPage body then pure .startPage
  else if isEndPage body then pure .endPage
  else ofWords files base body (Text.words body)

end TutorialPages.Directive
