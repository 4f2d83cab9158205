import TutorialPages.Page.Basic

/-!
# Drafts

A draft is a page in the making. Commands, checks and images may be added at any time, text only as
long as there is no post-check. A draft becomes a page when it is not empty.
-/

namespace TutorialPages

/-- A page in the making, with the line that opened it. -/
structure Draft where
  openedAt : Nat
  page : Page
  deriving DecidableEq, Repr

namespace Draft

/-- The draft of a page opened on the given line. -/
def start (line : Nat) : Draft :=
  ⟨line, Page.blank⟩

/-- Whether text may be added. -/
def acceptsText (draft : Draft) : Bool :=
  draft.page.postChecks.isEmpty

/-- Adds a pre-command. -/
def addPreCommand (draft : Draft) (command : PreCommand) : Draft :=
  { draft with page.preCommands := draft.page.preCommands ++ [command] }

/-- Adds a post-check. -/
def addPostCheck (draft : Draft) (check : PostCheck) : Draft :=
  { draft with page.postChecks := draft.page.postChecks ++ [check] }

/-- Appends HTML to the body, unless there is a post-check. What is refused leaves the draft as it
stands at that point. -/
def appendText (html : Text) : EStateM Problem Draft Unit := do
  unless (← get).acceptsText do throw .textAfterPostCheck
  modify fun draft => { draft with page.text := draft.page.text ++ html }

/-- The draft behind HTML that has been appended. -/
def addText (draft : Draft) (html : Text) : Except Problem Draft :=
  match (appendText html).run draft with
  | .ok () next => .ok next
  | .error problem _ => .error problem

/-- Adds an image. -/
def addAsset (draft : Draft) (asset : Asset) : Draft :=
  { draft with page.assets := some (draft.page.assets.getD [] ++ [asset]) }

/-- The finished page. -/
def finish (draft : Draft) : Except Problem Page :=
  if draft.page.isEmpty then .error .emptyPage else .ok draft.page

end Draft

end TutorialPages
