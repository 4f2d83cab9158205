import TutorialPages.Json.Printer
import TutorialPages.Page.Basic

/-!
# Pages as JSON

The form in which pages are handed on. A command is one flat object with its role and its method
first; a namespace and a list of images are left out when they are absent.
-/

namespace TutorialPages

/-- An embedded file as JSON. -/
def EmbeddedFile.toJson (file : EmbeddedFile) : Json :=
  .object [("name", .text file.name), ("value", .text file.value)]

/-- The members that state a condition. -/
def Condition.members (condition : Condition) : List (Text × Json) :=
  ("kind", .text (Vocabulary.word condition.kind)) ::
  ("target", .text condition.target) ::
  ("equalityOperator", .text (Vocabulary.word condition.operator)) ::
  ("value", .integer condition.value.toInt) ::
  match condition.inNamespace with
  | some place => [("namespace", .text place)]
  | none => []

/-- A command as JSON: its role, its method, and the members of its own. -/
def commandObject (method : Method) (members : List (Text × Json)) : Json :=
  .object (("type", .text method.role.word) :: ("method", .text method.word) :: members)

/-- A pre-command as JSON. -/
def PreCommand.toJson (command : PreCommand) : Json :=
  commandObject command.method <|
    match command with
    | .apply file | .includeFile file => [("content", file.toJson)]
    | .execCommand text => [("value", .text text)]
    | .wait condition => condition.members

/-- A post-check as JSON. -/
def PostCheck.toJson (check : PostCheck) : Json :=
  commandObject check.method <|
    match check with
    | .commandWait text | .fileCheck text | .checkCommandOut text => [("value", .text text)]
    | .check condition => condition.members

/-- An image as JSON. -/
def Asset.toJson (asset : Asset) : Json :=
  .object [("name", .text asset.name), ("image", .text asset.content)]

/-- A page as JSON. -/
def Page.toJson (page : Page) : Json :=
  .object <|
    ("preCommands", .array (page.preCommands.map PreCommand.toJson)) ::
    ("text", .text page.text) ::
    ("postChecks", .array (page.postChecks.map PostCheck.toJson)) ::
    match page.assets with
    | some assets => [("assets", .array (assets.map Asset.toJson))]
    | none => []

namespace Document

/-- A document as JSON: the array of its pages. -/
def toJson (document : Document) : Json :=
  .array (document.pages.map Page.toJson)

/-- The compact text of a document. -/
def compact (document : Document) : Text :=
  document.toJson.compact

/-- The indented text of a document. -/
def indented (document : Document) : Text :=
  document.toJson.indented

end Document

end TutorialPages
