import TutorialPages.Proofs.Assembly.Failing
import TutorialPages.Proofs.Document.Compiled

/-!
# Text comes before post-checks

What holds between two lines has two consequences. No step ever has to make do with a default, for
what it looks up is there. And that text follows a post-check is reported in one place alone: on a
line of text, before anything is done with that line. Wherever text is put on a page later on, as
when a block is ended, the page takes it.
-/

namespace TutorialPages

open Layout Traced

variable {setting : Setting} {before : List Text} {assembly : Assembly} {page : OpenPage}
  {number : Nat} {line : Text}

/-! ## Nothing is missing -/

/-- What the steps look up on an open page is there, and the page takes the text that they put on
it. -/
structure OpenPage.LacksNothing (before : List Text) (page : OpenPage) : Prop where
  /-- A fence that is opened has a mark. -/
  opened : ∀ line tracker, page.tracker.observe line = (.opened, tracker) →
    ∃ marker, tracker.marker? = some marker
  /-- Where a fence is closed, there is a block to render. -/
  closed : ∀ line tracker, page.tracker.observe line = (.closed, tracker) →
    page.pending.isSome = true
  /-- The line that opened the page is one of the lines. -/
  start : ∃ line, before[page.draft.openedAt - 1]? = some line
  /-- A block that waits can be put on the page, and so can a line behind the guard, with or without
  an image. -/
  takesText : page.pending.isSome = true ∨ page.draft.acceptsText = true → ∀ html,
    (∃ draft, page.draft.addText html = .ok draft) ∧
      ∀ asset, ∃ draft, (page.draft.addAsset asset).addText html = .ok draft

theorem OpenPage.Sound.lacksNothing (h : page.Sound setting before) : page.LacksNothing before where
  opened _ _ hopened := FenceTracker.marker?_of_observe_opened hopened
  closed _ _ hclosed := h.isSome_pending_of_closed hclosed
  start := by
    obtain ⟨line, hstart⟩ := h.openedAt
    exact ⟨line, hstart.getElem?⟩
  takesText htakes html := by
    have hchecks : page.draft.page.postChecks = [] := by
      rcases htakes with hpending | haccepts
      · exact h.postChecks_of_isSome_pending hpending
      · exact Draft.acceptsText_iff.mp haccepts
    refine ⟨⟨_, Draft.addText_eq_ok.mpr ⟨hchecks, rfl⟩⟩, fun asset => ?_⟩
    -- an image leaves the checks as they are
    exact ⟨_, Draft.addText_eq_ok.mpr ⟨hchecks, rfl⟩⟩

namespace Assembly

/-! ## Text behind a post-check -/

/-- Behind a post-check a line of text is refused at once, so no renderer and no file matters. -/
theorem Sound.feed_of_postChecks (h : assembly.Sound setting before)
    (hcurrent : assembly.current = some page) (hchecks : page.draft.page.postChecks ≠ [])
    (hmarked : Directive.isMarked line = false) (number : Nat) (renderer : Renderer)
    (files : FileSource) :
    feed { setting with renderer, files } number line assembly = .fail .textAfterPostCheck := by
  -- a block waits only where no check stands
  have hpending : page.pending = none := by
    cases hpending : page.pending with
    | none => rfl
    | some pending =>
      have hsome : page.pending.isSome = true := by rw [hpending]; rfl
      exact absurd ((h.current page hcurrent).postChecks_of_isSome_pending hsome) hchecks
  exact feed_of_textAfterPostCheck hcurrent hmarked hpending hchecks

/-- It is said of a line of text behind a post-check of the open page, and of no other line. -/
theorem Sound.feed_eq_textAfterPostCheck_iff (h : assembly.Sound setting before) :
    (feed setting number line assembly).outcome = .error .textAfterPostCheck ↔
      Directive.isMarked line = false ∧
        ∃ page, assembly.current = some page ∧ page.draft.page.postChecks ≠ [] := by
  constructor
  · intro herror
    by_contra hnot
    -- without a line of text or without a check the line fails with something else, if at all
    refine feed_failsOnly ?_ ?_ _ herror rfl
    · intro page hcurrent hpending
      exact (h.current page hcurrent).postChecks_of_isSome_pending hpending
    · intro hmarked page hcurrent
      by_contra hchecks
      exact hnot ⟨hmarked, page, hcurrent, hchecks⟩
  · rintro ⟨hmarked, page, hcurrent, hchecks⟩
    have hfail := h.feed_of_postChecks hcurrent hchecks hmarked number setting.renderer
      setting.files
    rw [hfail]
    rfl

/-- It is never said at the end of the lines. -/
theorem Sound.closeLast_ne (h : assembly.Sound setting before)
    (hcurrent : assembly.current = some page) :
    (closeLast setting page assembly).outcome ≠ .error .textAfterPostCheck := by
  intro herror
  have hproblem := closeLast_failsOnly
    (h.current page hcurrent).postChecks_of_isSome_pending _ herror
  split at hproblem
  · rcases hproblem with hempty | ⟨pending, -, hrefused⟩
    · cases hempty
    · exact hrefused.ne rfl
  · cases hproblem

/-- A post-check on the open page stands on one of its lines. -/
theorem exists_isPostCheck_of_current {page : OpenPage}
    (hcurrent : (reached setting before).current = some page)
    (hchecks : page.draft.page.postChecks ≠ []) :
    ∃ body, openBody? setting.files setting.base 1 before = some body ∧
      ∃ check ∈ body.lines, isPostCheck setting.files setting.base check = true := by
  rw [reached, Option.map_eq_some_iff] at hcurrent
  obtain ⟨body, hopen, rfl⟩ := hcurrent
  refine ⟨body, hopen, ?_⟩
  by_contra hnone
  push Not at hnone
  refine hchecks (PageBody.postChecks_eq_nil_iff.mpr fun check hcheck => ?_)
  exact Bool.eq_false_iff.mpr (hnone check hcheck)

/-- A run that is refused on a line reads the files of the lines before it, and what that line
itself reads. -/
theorem reads_run_of_feed_eq_error {lines after : List Text} {middle : Assembly}
    {problem : Problem} (hlines : lines = before ++ line :: after)
    (htaken : (feedAll setting 1 before start).outcome = .ok middle)
    (hproblem : (feed setting (1 + before.length) line middle).outcome = .error problem) :
    (run setting lines).reads =
      (feedAll setting 1 before start).reads ++
        (feed setting (1 + before.length) line middle).reads := by
  subst hlines
  -- the failure is given its place, which reads nothing and stops the run
  have hline : ((feed setting (1 + before.length) line middle).mapError
      (failureAt setting (1 + before.length) line)).outcome = .error
        (failureAt setting (1 + before.length) line problem) :=
    outcome_mapError_eq_error.mpr ⟨problem, hproblem, rfl⟩
  rw [run, feedAll_append, bind_assoc, reads_bind_of_ok htaken, feedAll, bind_assoc,
    reads_bind_of_error hline, reads_mapError]

/-! ## Along a whole run -/

/-- The invariant of an assembly and what follows from it. Behind any lines that have been taken the
parts of the assembly fit together, no step has to make do with a default, and that text follows a
post-check is reported exactly on a line of text for a page that has one, at once. So when a
document is refused for it, then on a line of text behind a post-check of the same page, and nothing
has been read for that line. -/
theorem invariant (setting : Setting) :
    (∀ before assembly, (feedAll setting 1 before start).outcome = .ok assembly →
      assembly.Sound setting before ∧
      (∀ page, assembly.current = some page →
        page.LacksNothing before ∧
        (closeLast setting page assembly).outcome ≠ .error .textAfterPostCheck) ∧
      ∀ number line,
        ((feed setting number line assembly).outcome = .error .textAfterPostCheck ↔
          Directive.isMarked line = false ∧
            ∃ page, assembly.current = some page ∧ page.draft.page.postChecks ≠ []) ∧
        ((feed setting number line assembly).outcome = .error .textAfterPostCheck →
          ∀ renderer files,
            feed { setting with renderer, files } number line assembly =
              .fail .textAfterPostCheck)) ∧
    ∀ content failure, (compile setting content).outcome = .error failure →
      failure.problem = .textAfterPostCheck →
      ∃ before line after body, Text.lines content = before ++ line :: after ∧
        failure.location.line = before.length + 1 ∧ failure.lineText = line ∧
        Directive.isMarked line = false ∧
        openBody? setting.files setting.base 1 before = some body ∧
        (∃ check ∈ body.lines, isPostCheck setting.files setting.base check = true) ∧
        (compile setting content).reads = (feedAll setting 1 before start).reads := by
  refine ⟨?_, ?_⟩
  · intro before assembly htaken
    have hsound := sound_of_feedAll_eq_ok htaken
    refine ⟨hsound, ?_, ?_⟩
    · intro page hcurrent
      exact ⟨(hsound.current page hcurrent).lacksNothing, hsound.closeLast_ne hcurrent⟩
    · intro number line
      refine ⟨hsound.feed_eq_textAfterPostCheck_iff, ?_⟩
      intro herror renderer files
      obtain ⟨hmarked, page, hcurrent, hchecks⟩ :=
        hsound.feed_eq_textAfterPostCheck_iff.mp herror
      exact hsound.feed_of_postChecks hcurrent hchecks hmarked number renderer files
  · intro content failure h hproblem
    -- a line that is refused names the check that stands before it on its page
    rcases run_eq_error_iff.mp h with hline | hend
    · obtain ⟨before, line, after, middle, problem, hlines, htaken, herror, rfl⟩ := hline
      obtain rfl : problem = .textAfterPostCheck := hproblem
      have hsound := sound_of_feedAll_eq_ok htaken
      obtain ⟨hmarked, page, hcurrent, hchecks⟩ :=
        hsound.feed_eq_textAfterPostCheck_iff.mp herror
      obtain ⟨-, rfl⟩ := feedAll_start_eq_ok.mp htaken
      obtain ⟨body, hopen, hcheck⟩ := exists_isPostCheck_of_current hcurrent hchecks
      refine ⟨before, line, after, body, hlines, Nat.add_comm 1 _, rfl, hmarked, hopen, hcheck, ?_⟩
      -- the line is refused before anything is read
      have hfail := hsound.feed_of_postChecks hcurrent hchecks hmarked (1 + before.length)
        setting.renderer setting.files
      rw [compile, reads_run_of_feed_eq_error hlines htaken herror, hfail]
      exact List.append_nil _
    · -- at the end it is another problem
      obtain ⟨last, page, problem, htaken, hcurrent, herror, rfl⟩ := hend
      obtain rfl : problem = .textAfterPostCheck := hproblem
      exact absurd herror ((sound_of_feedAll_eq_ok htaken).closeLast_ne hcurrent)

/-- A block that waits behind its opening fence, and text that follows a check. -/
theorem invariant_verbatim :
    (feedAll (.verbatim { groupCodeFences := true }) 1
        ["-> START PAGE".toList, "~~~".toList] start).outcome =
      .ok ⟨some ⟨⟨1, .blank⟩, some ⟨'~', 3⟩, some ⟨2, '~', "~~~".toList⟩⟩, [], []⟩ ∧
    (PendingFence.mk 2 '~' "~~~".toList).Sound ["-> START PAGE".toList, "~~~".toList]
      ⟨⟨1, .blank⟩, some ⟨'~', 3⟩, some ⟨2, '~', "~~~".toList⟩⟩ ∧
    OpenPage.LacksNothing ["-> START PAGE".toList, "~~~".toList]
      ⟨⟨1, .blank⟩, some ⟨'~', 3⟩, some ⟨2, '~', "~~~".toList⟩⟩ ∧
    (compile (.verbatim {}) "-> START PAGE\n-> FILECHECK f\nHo".toList).outcome =
      .error ⟨⟨none, 3⟩, "Ho".toList, .textAfterPostCheck⟩ ∧
    ∃ before line after body, Text.lines "-> START PAGE\n-> FILECHECK f\nHo".toList =
        before ++ line :: after ∧ before.length + 1 = 3 ∧ line = "Ho".toList ∧
        Directive.isMarked line = false ∧
        openBody? (Setting.verbatim {}).files [] 1 before = some body ∧
        ∃ check ∈ body.lines, isPostCheck (Setting.verbatim {}).files [] check = true := by
  obtain ⟨hstates, -⟩ := invariant (.verbatim { groupCodeFences := true })
  have htaken : (feedAll (.verbatim { groupCodeFences := true }) 1
      ["-> START PAGE".toList, "~~~".toList] start).outcome =
        .ok ⟨some ⟨⟨1, .blank⟩, some ⟨'~', 3⟩, some ⟨2, '~', "~~~".toList⟩⟩, [], []⟩ := by
    rfl
  obtain ⟨hsound, hpages, -⟩ := hstates _ _ htaken
  obtain ⟨-, hfailures⟩ := invariant (.verbatim {})
  have hrefused : (compile (.verbatim {}) "-> START PAGE\n-> FILECHECK f\nHo".toList).outcome =
      .error ⟨⟨none, 3⟩, "Ho".toList, .textAfterPostCheck⟩ := by
    rfl
  obtain ⟨before, line, after, body, hlines, hnumber, hline, hmarked, hopen, hcheck, -⟩ :=
    hfailures _ _ hrefused rfl
  exact ⟨htaken, (hsound.current _ rfl).pending _ rfl, (hpages _ rfl).1, hrefused, before, line,
    after, body, hlines, hnumber.symm, hline.symm, hmarked, hopen, hcheck⟩

end Assembly

end TutorialPages
