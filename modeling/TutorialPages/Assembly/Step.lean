import TutorialPages.Assembly.Basic
import TutorialPages.Directive.Reader

/-!
# One line of an assembly

What a line does depends on the open page. A directive is carried out; the text of a page is
rendered and added to its draft, where an image is embedded first; text outside of any page is
warned about and left out. When blocks are grouped, the lines of a fenced block are held back until
the block ends: at its closing fence, at a directive, or with the page.
-/

namespace TutorialPages.Assembly

/-- A line as diagnostics name it. -/
def locate (options : Options) (line : Nat) : Location :=
  ⟨options.fileName, line⟩

/-- Reports a finding. -/
def warn (warning : Warning) (assembly : Assembly) : Traced Problem Assembly := do
  .log .warn warning.message
  return { assembly with warnings := assembly.warnings ++ [warning] }

/-- Renders a fragment. -/
def render (setting : Setting) (fragment : Text) : Traced Problem Text :=
  .ofExcept ((setting.renderer fragment).mapError .refused)

/-- Renders a fragment into the draft of a page. -/
def addRendered (setting : Setting) (fragment : Text) (page : OpenPage) :
    Traced Problem OpenPage := do
  let html ← render setting fragment
  let draft ← .ofExcept (page.draft.addText html)
  return { page with draft }

/-- Renders a block that never saw its closing fence as it stands. -/
def flushFence (setting : Setting) (page : OpenPage) (assembly : Assembly) :
    Traced Problem (OpenPage × Assembly) :=
  match page.pending with
  | none => return (page, assembly)
  | some pending => do
    let page ← addRendered setting pending.source { page with tracker := .start, pending := none }
    let assembly ← warn (.unclosedCodeFence (locate setting.options pending.openedAt)
      pending.marker) assembly
    return (page, assembly)

/-- Closes a page. -/
def closePage (setting : Setting) (page : OpenPage) (assembly : Assembly) :
    Traced Problem Assembly := do
  let (page, assembly) ← flushFence setting page assembly
  let finished ← .ofExcept page.draft.finish
  .log .debug (.join ["page closed with ", Text.ofNat finished.preCommands.length,
    " pre-commands, ", Text.ofNat finished.postChecks.length, " post-checks"])
  return { assembly with current := none, pages := assembly.pages ++ [finished] }

/-- Carries out a directive. -/
def apply (setting : Setting) (number : Nat) (directive : Directive) (assembly : Assembly) :
    Traced Problem Assembly :=
  match directive, assembly.current with
  | .startPage, none => openPage assembly
  | .startPage, some page => do
    let assembly ← warn (.nestedStartPage (locate setting.options number) page.draft.openedAt)
      assembly
    openPage (← closePage setting page assembly)
  | .endPage, none => .fail .unexpectedEndPage
  | .endPage, some page => closePage setting page assembly
  | .pre command, none => .fail (.commandOutsidePage command.method)
  | .pre command, some page =>
    return { assembly with current := some { page with draft := page.draft.addPreCommand command } }
  | .post check, none => .fail (.commandOutsidePage check.method)
  | .post check, some page =>
    return { assembly with current := some { page with draft := page.draft.addPostCheck check } }
where
  /-- Opens a page on this line. -/
  openPage (assembly : Assembly) : Traced Problem Assembly := do
    .log .debug (.join ["page opened on line ", Text.ofNat number])
    return { assembly with current := some (.start number) }

/-- Reads a directive line and carries it out. -/
def feedDirective (setting : Setting) (number : Nat) (line : Text) (assembly : Assembly) :
    Traced Problem Assembly := do
  let directive ← Directive.read setting.files setting.base line
  apply setting number directive assembly

/-- Leaves out a line outside of any page. -/
def skip (setting : Setting) (number : Nat) (line : Text) (assembly : Assembly) :
    Traced Problem Assembly :=
  if Text.allBlank line then return assembly
  else do
    .log .debug (.join ["line ", Text.ofNat number, " is outside any page, skipping"])
    warn (.contentOutsidePage (locate setting.options number)) assembly

/-- Embeds the image that a line refers to, if it refers to one. -/
def embedImage (setting : Setting) (line : Text) (page : OpenPage) : Traced Problem OpenPage :=
  if Image.isReference line then do
    let asset ← Image.embed setting.files setting.base line
    return { page with draft := page.draft.addAsset asset }
  else return page

/-- Renders a line by itself, with the image it refers to. -/
def addLine (setting : Setting) (number : Nat) (line : Text) (page : OpenPage) :
    Traced Problem OpenPage := do
  let page ← embedImage setting line page
  .log .trace (.join ["line ", Text.ofNat number, " rendered as prose"])
  addRendered setting line page

/-- Takes a line of text on a page where no block is open. -/
def feedText (setting : Setting) (number : Nat) (line : Text) (page : OpenPage) :
    Traced Problem OpenPage :=
  if !page.draft.acceptsText then .fail .textAfterPostCheck
  else if Text.allBlank line then return page
  else if setting.options.groupCodeFences then
    match page.tracker.observe line with
    | (.opened, tracker) =>
      return { page with
        tracker
        pending := some ⟨number, (FenceTracker.marker? tracker).getD '`', line⟩ }
    | (_, tracker) => addLine setting number line { page with tracker }
  else addLine setting number line page

/-- Takes a line of text inside a block that waits for its end. -/
def feedBlock (setting : Setting) (line : Text) (page : OpenPage) (pending : PendingFence) :
    Traced Problem OpenPage :=
  let source := pending.source ++ '\n' :: line
  match page.tracker.observe line with
  | (.closed, tracker) => addRendered setting source { page with tracker, pending := none }
  | (_, tracker) => return { page with tracker, pending := some { pending with source } }

/-- Takes one line of the document. -/
def feed (setting : Setting) (number : Nat) (line : Text) (assembly : Assembly) :
    Traced Problem Assembly :=
  match assembly.current with
  | none =>
    if Directive.isMarked line then feedDirective setting number line assembly
    else skip setting number line assembly
  | some page =>
    if Directive.isMarked line then do
      let (page, assembly) ← flushFence setting page assembly
      feedDirective setting number line { assembly with current := some page }
    else do
      let page ← match page.pending with
        | some pending => feedBlock setting line page pending
        | none => feedText setting number line page
      return { assembly with current := some page }

end TutorialPages.Assembly
