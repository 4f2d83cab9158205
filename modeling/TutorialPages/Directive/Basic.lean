import TutorialPages.Directive.Vocabulary

/-!
# Directives

A directive opens or closes a page or gives the open page a command: a pre-command that runs before
the body of the page is shown, or a post-check that verifies what the reader has done.
-/

namespace TutorialPages

/-- A text file embedded under the name it was asked for by. -/
structure EmbeddedFile where
  name : Text
  value : Text
  deriving DecidableEq, Repr

/-- A condition on the number of resources. -/
structure Condition where
  /-- What is counted. -/
  kind : ResourceKind
  /-- The name of the resource. -/
  target : Text
  /-- How the count compares with the expected value. -/
  operator : Operator
  /-- The expected value. -/
  value : Int64
  /-- Where to look, if not in the default place. -/
  inNamespace : Option Text
  deriving DecidableEq, Repr

/-- A command that runs before the body of its page. -/
inductive PreCommand where
  /-- Applies a manifest. -/
  | apply (file : EmbeddedFile)
  /-- Shows a file. -/
  | includeFile (file : EmbeddedFile)
  /-- Runs shell text. -/
  | execCommand (command : Text)
  /-- Waits until a condition holds. -/
  | wait (condition : Condition)
  deriving DecidableEq, Repr

/-- A check that runs after the body of its page. -/
inductive PostCheck where
  /-- Runs shell text and waits for it. -/
  | commandWait (command : Text)
  /-- Verifies a condition. -/
  | check (condition : Condition)
  /-- Verifies that a file exists. -/
  | fileCheck (file : Text)
  /-- Verifies the output of a command. -/
  | checkCommandOut (output : Text)
  deriving DecidableEq, Repr

/-- What one directive line says. -/
inductive Directive where
  /-- Opens a page. -/
  | startPage
  /-- Closes the open page. -/
  | endPage
  /-- Adds a pre-command to the open page. -/
  | pre (command : PreCommand)
  /-- Adds a post-check to the open page. -/
  | post (check : PostCheck)
  deriving DecidableEq, Repr

/-- The method of a pre-command. -/
def PreCommand.method : PreCommand → Method
  | .apply _ => .apply
  | .includeFile _ => .includeFile
  | .execCommand _ => .execCommand
  | .wait _ => .wait

/-- The method of a post-check. -/
def PostCheck.method : PostCheck → Method
  | .commandWait _ => .commandWait
  | .check _ => .check
  | .fileCheck _ => .fileCheck
  | .checkCommandOut _ => .checkCommandOut

namespace Directive

/-- The method of a directive; page markers have none. -/
def method? : Directive → Option Method
  | .startPage | .endPage => none
  | .pre command => some command.method
  | .post check => some check.method

/-- The role of a directive; page markers have none. -/
def role? : Directive → Option Role
  | .startPage | .endPage => none
  | .pre _ => some .preCommand
  | .post _ => some .postCheck

end Directive

end TutorialPages
