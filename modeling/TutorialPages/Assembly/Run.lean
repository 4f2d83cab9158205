import TutorialPages.Assembly.Step
import TutorialPages.Text.Lines

/-!
# Compiling a document

The lines of a document are taken one after another; the first failure ends the run and is reported
with its line. A page that is open at the end is closed with a warning, or refused, and what goes
wrong then is reported at the line that opened it.
-/

namespace TutorialPages

/-- The pages of a document and what has been warned about, in order. -/
structure Compiled where
  document : Document
  warnings : List Warning
  deriving DecidableEq, Repr

namespace Assembly

/-- A problem with the line it arose from. -/
def failureAt (setting : Setting) (number : Nat) (line : Text) (problem : Problem) : Failure :=
  ⟨locate setting.options number, line, problem⟩

/-- Takes lines of which the first has the given number. -/
def feedAll (setting : Setting) (number : Nat) : List Text → Assembly → Traced Failure Assembly
  | [], assembly => pure assembly
  | line :: rest, assembly => do
    let assembly ← (feed setting number line assembly).mapError (failureAt setting number line)
    feedAll setting (number + 1) rest assembly

/-- Closes the page that is open at the end of the document. -/
def closeLast (setting : Setting) (page : OpenPage) (assembly : Assembly) :
    Traced Problem Assembly :=
  if !setting.options.allowUnterminatedPage then .fail .unterminatedPage
  else do
    let assembly ← warn (.unterminatedPage (locate setting.options page.draft.openedAt)) assembly
    closePage setting page assembly

/-- Ends the run over the lines of a document. -/
def finish (setting : Setting) (lines : List Text) (assembly : Assembly) :
    Traced Failure Compiled := do
  let assembly ← match assembly.current with
    | none => pure assembly
    | some page =>
      let number := page.draft.openedAt
      (closeLast setting page assembly).mapError
        (failureAt setting number (lines[number - 1]?.getD []))
  return ⟨⟨assembly.pages⟩, assembly.warnings⟩

/-- Compiles the lines of a document. -/
def run (setting : Setting) (lines : List Text) : Traced Failure Compiled := do
  let assembly ← feedAll setting 1 lines start
  finish setting lines assembly

end Assembly

/-- Compiles a document. -/
def compile (setting : Setting) (content : Text) : Traced Failure Compiled :=
  Assembly.run setting (Text.lines content)

end TutorialPages
