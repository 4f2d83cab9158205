import TutorialPages.Assembly.Run
import TutorialPages.Proofs.Layout.Fragment
import TutorialPages.Proofs.Page.Draft
import TutorialPages.Proofs.Traced

/-!
# When the operations of an assembly succeed

For each operation on an assembly: the condition under which it succeeds, and what it then leaves.
Later proofs use these laws and look into no operation again.
-/

namespace TutorialPages

namespace Assembly

open Traced

variable {setting : Setting} {number : Nat} {line fragment html : Text}
  {page page' : OpenPage} {assembly assembly' : Assembly}

/-! ## Rendering and warnings -/

theorem warn_eq_ok {warning : Warning} :
    (warn warning assembly).outcome = .ok assembly' ↔
      assembly' = { assembly with warnings := assembly.warnings ++ [warning] } := by
  simp only [warn, outcome_log_bind, outcome_pure_eq_ok]

theorem render_eq_ok :
    (render setting fragment).outcome = .ok html ↔ setting.renderer fragment = .ok html := by
  rw [render, outcome_ofExcept]
  cases setting.renderer fragment with
  | ok value =>
    show Except.ok value = .ok html ↔ Except.ok value = .ok html
    simp
  | error problem =>
    show Except.error (Problem.refused problem) = .ok html ↔ Except.error problem = .ok html
    simp

theorem addRendered_eq_ok :
    (addRendered setting fragment page).outcome = .ok page' ↔
      ∃ html, setting.renderer fragment = .ok html ∧ page.draft.page.postChecks = [] ∧
        page' = { page with draft.page.text := page.draft.page.text ++ html } := by
  simp only [addRendered, outcome_bind_eq_ok, render_eq_ok, outcome_ofExcept, Draft.addText_eq_ok,
    outcome_pure_eq_ok]
  -- the page takes the HTML exactly where it has no check, so the guard becomes a condition
  constructor
  · intro h
    rcases h with ⟨html, hrender, draft, ⟨hchecks, rfl⟩, rfl⟩
    exact ⟨html, hrender, hchecks, rfl⟩
  · intro h
    rcases h with ⟨html, hrender, hchecks, rfl⟩
    exact ⟨html, hrender, _, ⟨hchecks, rfl⟩, rfl⟩

/-! ## Closing a page -/

theorem flushFence_of_none (h : page.pending = none) :
    flushFence setting page assembly = pure (page, assembly) := by
  simp [flushFence, h]

theorem flushFence_of_some {pending : PendingFence} {flushed : OpenPage × Assembly}
    (h : page.pending = some pending) :
    (flushFence setting page assembly).outcome = .ok flushed ↔
      ∃ html, setting.renderer pending.source = .ok html ∧ page.draft.page.postChecks = [] ∧
        flushed = ({ page with
            draft.page.text := page.draft.page.text ++ html, tracker := .start, pending := none },
          { assembly with warnings := assembly.warnings ++
            [.unclosedCodeFence (locate setting.options pending.openedAt) pending.marker] }) := by
  simp only [flushFence, h, outcome_bind_eq_ok, addRendered_eq_ok, warn_eq_ok,
    outcome_pure_eq_ok]
  -- the text is added before the block is warned about, so both are there when it succeeds
  constructor
  · intro h
    rcases h with ⟨page', ⟨html, hrender, hchecks, rfl⟩, assembly', rfl, rfl⟩
    exact ⟨html, hrender, hchecks, rfl⟩
  · intro h
    rcases h with ⟨html, hrender, hchecks, rfl⟩
    exact ⟨_, ⟨html, hrender, hchecks, rfl⟩, _, rfl, rfl⟩

theorem closePage_eq_ok :
    (closePage setting page assembly).outcome = .ok assembly' ↔
      ∃ flushed, (flushFence setting page assembly).outcome = .ok flushed ∧
        flushed.1.draft.page.isEmpty = false ∧
        assembly' = { flushed.2 with
          current := none, pages := flushed.2.pages ++ [flushed.1.draft.page] } := by
  simp only [closePage, outcome_bind_eq_ok, outcome_ofExcept, Draft.finish_eq_ok,
    outcome_log_bind, outcome_pure_eq_ok]
  constructor
  · intro h
    rcases h with ⟨flushed, hflushed, finished, ⟨hempty, rfl⟩, rfl⟩
    exact ⟨flushed, hflushed, hempty, rfl⟩
  · intro h
    rcases h with ⟨flushed, hflushed, hempty, rfl⟩
    exact ⟨flushed, hflushed, _, ⟨hempty, rfl⟩, rfl⟩

/-- A page without a block that waits for its end is closed as it is. -/
theorem closePage_of_none (h : page.pending = none) :
    (closePage setting page assembly).outcome = .ok assembly' ↔
      page.draft.page.isEmpty = false ∧
        assembly' = { assembly with
          current := none, pages := assembly.pages ++ [page.draft.page] } := by
  simp [closePage_eq_ok, flushFence_of_none h]

/-! ## Directives -/

theorem openPage_eq_ok :
    (apply.openPage number assembly).outcome = .ok assembly' ↔
      assembly' = { assembly with current := some (.start number) } := by
  simp only [apply.openPage, outcome_log_bind, outcome_pure_eq_ok]

/-- Outside of any page only `START PAGE` can be carried out. -/
theorem apply_outside_eq_ok {directive : Directive} (h : assembly.current = none) :
    (apply setting number directive assembly).outcome = .ok assembly' ↔
      directive = .startPage ∧ assembly' = { assembly with current := some (.start number) } := by
  -- everything but a new page is a failure where no page is open
  cases directive with
  | startPage => simp [apply, h, openPage_eq_ok]
  | endPage => simp [apply, h]
  | pre command => simp [apply, h]
  | post check => simp [apply, h]

section InPage

variable (h : assembly.current = some page) (hpending : page.pending = none)

include h hpending

/-- `START PAGE` on a page without an open block closes the page with a warning and opens the
next. -/
theorem apply_startPage_eq_ok :
    (apply setting number .startPage assembly).outcome = .ok assembly' ↔
      page.draft.page.isEmpty = false ∧
        assembly' =
          { current := some (.start number)
            pages := assembly.pages ++ [page.draft.page]
            warnings := assembly.warnings ++
              [.nestedStartPage (locate setting.options number) page.draft.openedAt] } := by
  -- the warning comes first and cannot fail, so only an empty page stands in the way
  simp only [apply, h, outcome_bind_eq_ok, warn_eq_ok, closePage_of_none hpending, openPage_eq_ok]
  constructor
  · intro h
    rcases h with ⟨warned, rfl, closed, ⟨hempty, rfl⟩, rfl⟩
    exact ⟨hempty, rfl⟩
  · intro h
    rcases h with ⟨hempty, rfl⟩
    exact ⟨_, rfl, _, ⟨hempty, rfl⟩, rfl⟩

theorem apply_endPage_eq_ok :
    (apply setting number .endPage assembly).outcome = .ok assembly' ↔
      page.draft.page.isEmpty = false ∧
        assembly' = { assembly with
          current := none, pages := assembly.pages ++ [page.draft.page] } := by
  simp only [apply, h, closePage_of_none hpending]

omit hpending

theorem apply_pre_eq_ok {command : PreCommand} :
    (apply setting number (.pre command) assembly).outcome = .ok assembly' ↔
      assembly' = { assembly with
        current := some { page with draft := page.draft.addPreCommand command } } := by
  simp [apply, h, eq_comm]

theorem apply_post_eq_ok {check : PostCheck} :
    (apply setting number (.post check) assembly).outcome = .ok assembly' ↔
      assembly' = { assembly with
        current := some { page with draft := page.draft.addPostCheck check } } := by
  simp [apply, h, eq_comm]

end InPage

theorem feedDirective_eq_ok :
    (feedDirective setting number line assembly).outcome = .ok assembly' ↔
      ∃ directive, (Directive.read setting.files setting.base line).outcome = .ok directive ∧
        (apply setting number directive assembly).outcome = .ok assembly' := by
  simp only [feedDirective, outcome_bind_eq_ok]

/-! ## Lines of text -/

/-- Text outside of any page never fails; it is warned about unless it is blank. -/
theorem skip_eq_ok :
    (skip setting number line assembly).outcome = .ok assembly' ↔
      assembly' = { assembly with warnings := assembly.warnings ++
        (if Text.allBlank line then []
        else [.contentOutsidePage (locate setting.options number)]) } := by
  rw [skip]
  cases Text.allBlank line with
  | true => simp only [↓reduceIte, outcome_pure_eq_ok, List.append_nil]
  | false => simp only [Bool.false_eq_true, ↓reduceIte, outcome_log_bind, warn_eq_ok]

theorem embedImage_eq_ok :
    (embedImage setting line page).outcome = .ok page' ↔
      if Image.isReference line then
        ∃ asset, (Image.embed setting.files setting.base line).outcome = .ok asset ∧
          page' = { page with draft := page.draft.addAsset asset }
      else page' = page := by
  rw [embedImage]
  cases Image.isReference line with
  | true => simp only [↓reduceIte, outcome_bind_eq_ok, outcome_pure_eq_ok]
  | false => simp [eq_comm]

theorem addLine_eq_ok :
    (addLine setting number line page).outcome = .ok page' ↔
      ∃ middle, (embedImage setting line page).outcome = .ok middle ∧
        (addRendered setting line middle).outcome = .ok page' := by
  simp only [addLine, outcome_bind_eq_ok, outcome_log_bind]

/-- A line of text where no block is open. -/
theorem feedText_eq (htracker : page.tracker = none) :
    feedText setting number line page =
      if page.draft.acceptsText = false then .fail .textAfterPostCheck
      else if Text.allBlank line then pure page
      else match if setting.options.groupCodeFences then Fence.opener? line else none with
        | some fence =>
          pure { page with tracker := some fence, pending := some ⟨number, fence.marker, line⟩ }
        | none => addLine setting number line page := by
  obtain ⟨draft, tracker, pending⟩ := page
  subst htracker
  simp only [feedText, Bool.not_eq_true']
  -- without grouping the tracker is not asked, and with it the line opens a fence or lies outside
  cases setting.options.groupCodeFences with
  | false => simp
  | true =>
    have hobserve := FenceTracker.observe_start line
    rw [FenceTracker.start] at hobserve
    rw [hobserve]
    cases Fence.opener? line with
    | none => simp
    | some fence => simp [FenceTracker.marker?]

/-- A line of text inside a block. -/
theorem feedBlock_eq {fence : Fence} {pending : PendingFence}
    (htracker : page.tracker = some fence) :
    feedBlock setting line page pending =
      if fence.closes line then
        addRendered setting (pending.source ++ '\n' :: line)
          { page with tracker := none, pending := none }
      else
        pure { page with
          pending := some { pending with source := pending.source ++ '\n' :: line } } := by
  obtain ⟨draft, tracker, waiting⟩ := page
  subst htracker
  simp only [feedBlock, FenceTracker.observe_open]
  cases fence.closes line with
  | true => rfl
  | false => rfl

/-! ## Lines -/

section Feed

theorem feed_outside_directive (h : assembly.current = none)
    (hmarked : Directive.isMarked line = true) :
    feed setting number line assembly = feedDirective setting number line assembly := by
  simp [feed, h, hmarked]

theorem feed_outside_text (h : assembly.current = none)
    (hmarked : Directive.isMarked line = false) :
    feed setting number line assembly = skip setting number line assembly := by
  simp [feed, h, hmarked]

theorem feed_inside_directive_eq_ok (h : assembly.current = some page)
    (hmarked : Directive.isMarked line = true) :
    (feed setting number line assembly).outcome = .ok assembly' ↔
      ∃ flushed, (flushFence setting page assembly).outcome = .ok flushed ∧
        (feedDirective setting number line { flushed.2 with current := some flushed.1 }).outcome =
          .ok assembly' := by
  simp only [feed, h, hmarked, ↓reduceIte, outcome_bind_eq_ok]

theorem feed_inside_text_eq_ok (h : assembly.current = some page)
    (hmarked : Directive.isMarked line = false) (hpending : page.pending = none) :
    (feed setting number line assembly).outcome = .ok assembly' ↔
      ∃ page', (feedText setting number line page).outcome = .ok page' ∧
        assembly' = { assembly with current := some page' } := by
  simp only [feed, h, hmarked, hpending, Bool.false_eq_true, ↓reduceIte, outcome_bind_eq_ok,
    outcome_pure_eq_ok]

theorem feed_inside_block_eq_ok {pending : PendingFence} (h : assembly.current = some page)
    (hmarked : Directive.isMarked line = false) (hpending : page.pending = some pending) :
    (feed setting number line assembly).outcome = .ok assembly' ↔
      ∃ page', (feedBlock setting line page pending).outcome = .ok page' ∧
        assembly' = { assembly with current := some page' } := by
  simp only [feed, h, hmarked, hpending, Bool.false_eq_true, ↓reduceIte, outcome_bind_eq_ok,
    outcome_pure_eq_ok]

end Feed

/-! ## Runs -/

theorem feedAll_append (number : Nat) (first second : List Text) (assembly : Assembly) :
    feedAll setting number (first ++ second) assembly =
      feedAll setting number first assembly >>=
        feedAll setting (number + first.length) second := by
  induction first generalizing number assembly with
  | nil => simp [feedAll]
  | cons line rest ih =>
    simp only [List.cons_append, feedAll, ih, bind_assoc, List.length_cons]
    -- both go on with the same lines, whose numbers are written in two ways
    congr 2
    funext next
    congr 2
    omega

/-- A run succeeds with one more line when it succeeds without and the line can be taken then. -/
theorem feedAll_concat_eq_ok {before : List Text} :
    (feedAll setting number (before ++ [line]) assembly).outcome = .ok assembly' ↔
      ∃ middle, (feedAll setting number before assembly).outcome = .ok middle ∧
        (feed setting (number + before.length) line middle).outcome = .ok assembly' := by
  rw [feedAll_append]
  simp only [feedAll, outcome_bind_eq_ok, outcome_mapError_eq_ok, bind_pure]

/-! ## The end of a document -/

theorem closeLast_eq_ok :
    (closeLast setting page assembly).outcome = .ok assembly' ↔
      setting.options.allowUnterminatedPage = true ∧
        (closePage setting page { assembly with warnings := assembly.warnings ++
          [.unterminatedPage (locate setting.options page.draft.openedAt)] }).outcome =
            .ok assembly' := by
  rw [closeLast]
  cases setting.options.allowUnterminatedPage with
  | true => simp [outcome_bind_eq_ok, warn_eq_ok]
  | false => simp

theorem finish_of_none {lines : List Text} (h : assembly.current = none) :
    finish setting lines assembly = pure ⟨⟨assembly.pages⟩, assembly.warnings⟩ := by
  simp [finish, h]

theorem finish_of_some {lines : List Text} {compiled : Compiled}
    (h : assembly.current = some page) :
    (finish setting lines assembly).outcome = .ok compiled ↔
      ∃ closed, (closeLast setting page assembly).outcome = .ok closed ∧
        compiled = ⟨⟨closed.pages⟩, closed.warnings⟩ := by
  simp only [finish, h, outcome_bind_eq_ok, outcome_mapError_eq_ok, outcome_pure_eq_ok]

theorem run_eq_ok {lines : List Text} {compiled : Compiled} :
    (run setting lines).outcome = .ok compiled ↔
      ∃ last, (feedAll setting 1 lines start).outcome = .ok last ∧
        (finish setting lines last).outcome = .ok compiled := by
  simp only [run, outcome_bind_eq_ok]

end Assembly

end TutorialPages
