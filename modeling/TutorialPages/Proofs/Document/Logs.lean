import TutorialPages.Proofs.Assembly.Failing
import TutorialPages.Proofs.Assembly.Logging
import TutorialPages.Proofs.Document.Compiled

/-!
# What compiling a document logs

The log of a document tells what has become of it: every warning is in it, and every page when it is
opened and when it is closed. The pages come one after another, so openings and closings take turns.
`pageLog` is what lines make the log tell of pages; a run that fails has told of the pages of the
lines that have been taken, and of no other.
-/

namespace TutorialPages

open Layout Traced LogRecord

/-- Openings and closings take turns, and an opening comes first. -/
inductive TakeTurns : List LogRecord → Prop where
  /-- No page has been opened. -/
  | nil : TakeTurns []
  /-- The last page has not been closed. -/
  | opened {record : LogRecord} (opening : record.isOpening = true) : TakeTurns [record]
  /-- A page has been opened and closed, and others follow. -/
  | closed {record record' : LogRecord} {rest : List LogRecord}
    (opening : record.isOpening = true) (closing : record'.isClosing = true)
    (others : TakeTurns rest) : TakeTurns (record :: record' :: rest)

namespace Layout

/-- The numbers of the lines that are a `START PAGE`, where the first line has the given number. -/
def startNumbers (files : FileSource) (base : Path) (number : Nat) (lines : List Text) : List Nat :=
  ((lines.zipIdx number).filter fun numbered => opensPage files base numbered.1).map Prod.snd

variable {files : FileSource} {base : Path}

/-- Each `START PAGE` opens a page on its line. -/
theorem startNumbers_eq (number : Nat) (lines : List Text) :
    startNumbers files base number lines =
      (pageBodies files base number lines).map PageBody.openedAt := by
  induction lines generalizing number with
  | nil => rfl
  | cons line rest ih =>
    simp only [startNumbers] at ih ⊢
    cases hopens : opensPage files base line with
    | true => simp [pageBodies, hopens, ih]
    | false => simp [pageBodies, hopens, ih]

/-- The lines behind do not change the numbers of those before. -/
theorem startNumbers_isPrefix (number : Nat) {before lines : List Text} (h : before <+: lines) :
    startNumbers files base number before <+: startNumbers files base number lines := by
  obtain ⟨after, rfl⟩ := h
  rw [startNumbers, startNumbers, List.zipIdx_append, List.filter_append, List.map_append]
  exact List.prefix_append _ _

end Layout

/-! ## The records of pages -/

/-- The records of a page that has been closed. -/
def PageBody.records (setting : Setting) (body : PageBody) : List LogRecord :=
  [.opening body.openedAt, .closing (body.page setting)]

/-- What the lines make the log tell of pages. -/
def pageLog (setting : Setting) (lines : List Text) : List LogRecord :=
  (closedBodies setting.files setting.base 1 lines).flatMap (PageBody.records setting) ++
    (openBody? setting.files setting.base 1 lines).toList.map fun body => .opening body.openedAt

section PageLog

variable {setting : Setting} {before lines : List Text} {line : Text}

theorem takeTurns_append (bodies : List PageBody) {rest : List LogRecord} (h : TakeTurns rest) :
    TakeTurns (bodies.flatMap (PageBody.records setting) ++ rest) := by
  induction bodies with
  | nil => exact h
  | cons body others ih => exact .closed rfl rfl ih

theorem takeTurns_pageLog (setting : Setting) (lines : List Text) :
    TakeTurns (pageLog setting lines) := by
  refine takeTurns_append _ ?_
  cases openBody? setting.files setting.base 1 lines with
  | none => exact .nil
  | some body => exact .opened rfl

theorem filter_isOpening_records (bodies : List PageBody) :
    (bodies.flatMap (PageBody.records setting)).filter LogRecord.isOpening =
      bodies.map fun body => .opening body.openedAt := by
  induction bodies with
  | nil => rfl
  | cons body others ih => simp [PageBody.records, List.filter_cons, ih]

theorem filter_isClosing_records (bodies : List PageBody) :
    (bodies.flatMap (PageBody.records setting)).filter LogRecord.isClosing =
      bodies.map fun body => .closing (body.page setting) := by
  induction bodies with
  | nil => rfl
  | cons body others ih => simp [PageBody.records, List.filter_cons, ih]

/-- Every page is opened, the last one even if it is not closed. -/
theorem filter_isOpening_pageLog (setting : Setting) (lines : List Text) :
    (pageLog setting lines).filter LogRecord.isOpening =
      (startNumbers setting.files setting.base 1 lines).map LogRecord.opening := by
  rw [startNumbers_eq, pageBodies_eq, pageLog, List.filter_append, filter_isOpening_records]
  cases openBody? setting.files setting.base 1 lines with
  | none => simp
  | some body => simp [List.filter_cons]

theorem filter_isClosing_pageLog (setting : Setting) (lines : List Text) :
    (pageLog setting lines).filter LogRecord.isClosing =
      (closedBodies setting.files setting.base 1 lines).map fun body =>
        .closing (body.page setting) := by
  rw [pageLog, List.filter_append, filter_isClosing_records]
  cases openBody? setting.files setting.base 1 lines with
  | none => simp
  | some body => simp

/-- A line makes the log tell of the page that it closes, and then of the one that it opens. -/
theorem pageLog_concat {pages : List Page}
    (hpages : (closedBodies setting.files setting.base 1 (before ++ [line])).map
        (PageBody.page setting) =
      (closedBodies setting.files setting.base 1 before).map (PageBody.page setting) ++ pages) :
    pageLog setting (before ++ [line]) = pageLog setting before ++
      (pages.map LogRecord.closing ++
        (if opensPage setting.files setting.base line then [1 + before.length] else []).map
          LogRecord.opening) := by
  rw [pageLog, pageLog]
  rcases opens_or_closes_or_not_marker setting.files setting.base line with h | h | h
  -- a `START PAGE` closes the page that is open, if there is one, and opens another
  · have hclosed := closedBodies_concat_of_marker (isPageMarker_of_opensPage h) 1 before
    rw [hclosed, pageBodies_eq, List.map_append, List.append_cancel_left_eq] at hpages
    rw [hclosed, pageBodies_eq, openBody?_concat_of_opensPage h, ← hpages, h]
    cases openBody? setting.files setting.base 1 before with
    | none => simp
    | some body => simp [PageBody.records]
  -- an `END PAGE` closes a page as well, but leaves none open
  · have hclosed := closedBodies_concat_of_marker (isPageMarker_of_closesPage h) 1 before
    rw [hclosed, pageBodies_eq, List.map_append, List.append_cancel_left_eq] at hpages
    rw [hclosed, pageBodies_eq, openBody?_concat_of_closesPage h, ← hpages,
      opensPage_of_closesPage h]
    cases openBody? setting.files setting.base 1 before with
    | none => simp
    | some body => simp [PageBody.records]
  -- any other line leaves the page open on the line where it has been opened
  · have hclosed := closedBodies_concat_of_not_marker h 1 before
    rw [hclosed, List.self_eq_append_right] at hpages
    rw [hclosed, openBody?_concat_of_not_marker h, hpages, opensPage_of_not_marker h]
    cases openBody? setting.files setting.base 1 before with
    | none => simp
    | some body => simp [PageBody.concat]

end PageLog

/-! ## The records of a run -/

namespace Assembly

variable {setting : Setting} {lines : List Text} {last : Assembly}

/-- Lines that are taken have told of their pages and of all that has been warned about. -/
theorem told_of_feedAll_eq_ok (h : (feedAll setting 1 lines start).outcome = .ok last) :
    (feedAll setting 1 lines start).logs.filter LogRecord.isOfPage = pageLog setting lines ∧
      (feedAll setting 1 lines start).logs.filter LogRecord.isWarning =
        last.warnings.map LogRecord.ofWarning := by
  induction lines using List.reverseRecOn generalizing last with
  | nil =>
    cases h
    exact ⟨rfl, rfl⟩
  | append_singleton before line ih =>
    obtain ⟨middle, hmiddle, hline⟩ := feedAll_concat_eq_ok.mp h
    obtain ⟨hpagesBefore, hwarningsBefore⟩ := ih hmiddle
    have htells := tells_feed setting (1 + before.length) line middle
    obtain ⟨pages, hpages, htoldPages⟩ := htells.pages last hline
    obtain ⟨warnings, hwarnings, htoldWarnings⟩ := htells.warnings last hline
    have hlogs : (feedAll setting 1 (before ++ [line]) start).logs =
        (feedAll setting 1 before start).logs ++
          (feed setting (1 + before.length) line middle).logs := by
      rw [feedAll_append, logs_bind_of_ok hmiddle]
      simp only [feedAll, bind_pure, logs_mapError]
    -- the lines decide which pages are finished behind them, so these are the pages of `pageLog`
    obtain ⟨-, rfl⟩ := feedAll_start_eq_ok.mp hmiddle
    obtain ⟨-, rfl⟩ := feedAll_start_eq_ok.mp h
    rw [hlogs, List.filter_append, List.filter_append, hpagesBefore, hwarningsBefore, htoldPages,
      htoldWarnings]
    refine ⟨(pageLog_concat hpages).symm, ?_⟩
    rw [← List.map_append, ← hwarnings]
    rfl

/-- A run that succeeds has told of all its pages and of all that has been warned about. -/
theorem told_of_run_eq_ok {compiled : Compiled} (h : (run setting lines).outcome = .ok compiled) :
    (run setting lines).logs.filter LogRecord.isOfPage =
        (pageBodies setting.files setting.base 1 lines).flatMap (PageBody.records setting) ∧
      (run setting lines).logs.filter LogRecord.isWarning =
        compiled.warnings.map LogRecord.ofWarning := by
  obtain ⟨last, hlast, hfinish⟩ := run_eq_ok.mp h
  obtain ⟨hpagesBefore, hwarningsBefore⟩ := told_of_feedAll_eq_ok hlast
  have htells := tells_finish setting lines last
  obtain ⟨pages, hpages, htoldPages⟩ := htells.pages compiled hfinish
  obtain ⟨warnings, hwarnings, htoldWarnings⟩ := htells.warnings compiled hfinish
  rw [run, logs_bind_of_ok hlast, List.filter_append, List.filter_append, hpagesBefore,
    hwarningsBefore, htoldPages, htoldWarnings, ← List.map_append, ← hwarnings]
  refine ⟨?_, rfl⟩
  -- the page that is closed last is the one that the lines leave open
  obtain ⟨-, rfl⟩ := feedAll_start_eq_ok.mp hlast
  obtain ⟨-, rfl⟩ := run_eq_ok_iff.mp h
  simp only [Compiled.ofLines, reached, pageBodies_eq, List.map_append,
    List.append_cancel_left_eq] at hpages
  rw [pageLog, pageBodies_eq, ← hpages]
  cases openBody? setting.files setting.base 1 lines with
  | none => simp
  | some body => simp [PageBody.records]

/-- A run that fails has told of the pages of the lines that it has taken. -/
theorem told_of_run_eq_error {failure : Failure}
    (h : (run setting lines).outcome = .error failure) :
    ∃ before, before <+: lines ∧
      (run setting lines).logs.filter LogRecord.isOfPage = pageLog setting before := by
  rcases outcome_bind_eq_error.mp h with hlines | ⟨last, hlast, hfinish⟩
  -- the line that fails has told of no page
  · obtain ⟨before, line, after, middle, problem, rfl, hmiddle, hproblem, -⟩ :=
      feedAll_eq_error.mp hlines
    refine ⟨before, List.prefix_append _ _, ?_⟩
    have hline := outcome_mapError_eq_error.mpr
      ⟨problem, hproblem, (rfl : _ = failureAt setting (1 + before.length) line problem)⟩
    rw [run, logs_bind_of_error hlines, feedAll_append, logs_bind_of_ok hmiddle, feedAll,
      logs_bind_of_error hline, logs_mapError, List.filter_append,
      (told_of_feedAll_eq_ok hmiddle).1, (tells_feed _ _ _ _).silent problem hproblem,
      List.append_nil]
  · refine ⟨lines, List.prefix_rfl, ?_⟩
    rw [run, logs_bind_of_ok hlast, List.filter_append, (told_of_feedAll_eq_ok hlast).1,
      (tells_finish _ _ _).silent failure hfinish, List.append_nil]

end Assembly

/-! ## The log of a document -/

/-- The log of a document that has been compiled tells what has become of it. -/
structure LogsMirror (setting : Setting) (lines : List Text) (compiled : Compiled)
    (logs : List LogRecord) : Prop where
  /-- The warnings are logged in their own words and in their order. -/
  warnings : logs.filter LogRecord.isWarning = compiled.warnings.map LogRecord.ofWarning
  takeTurns : TakeTurns (logs.filter LogRecord.isOfPage)
  /-- There are as many pages as lines that open one. -/
  length_starts : (startNumbers setting.files setting.base 1 lines).length =
    compiled.document.pages.length
  /-- Each opening names the line of its `START PAGE`. -/
  openings : logs.filter LogRecord.isOpening =
    (startNumbers setting.files setting.base 1 lines).map LogRecord.opening
  /-- Each closing counts what is on its page. -/
  closings : logs.filter LogRecord.isClosing = compiled.document.pages.map LogRecord.closing

/-- The log of a document that has failed breaks off on the last page that has been opened. -/
structure LogsBreakOff (setting : Setting) (lines : List Text) (logs : List LogRecord) :
    Prop where
  takeTurns : TakeTurns (logs.filter LogRecord.isOfPage)
  closings_le : (logs.filter LogRecord.isClosing).length ≤
    (logs.filter LogRecord.isOpening).length
  openings_le : (logs.filter LogRecord.isOpening).length ≤
    (logs.filter LogRecord.isClosing).length + 1
  /-- The openings name the lines of the first `START PAGE`s. -/
  openings : logs.filter LogRecord.isOpening <+:
    (startNumbers setting.files setting.base 1 lines).map LogRecord.opening

/-- What compiling a document logs mirrors what it does: all warnings, and in turns the openings and
the closings of its pages, as far as it comes. -/
theorem compile_logs (setting : Setting) (content : Text) :
    (∀ compiled, (compile setting content).outcome = .ok compiled →
      LogsMirror setting (Text.lines content) compiled (compile setting content).logs) ∧
    (∀ failure, (compile setting content).outcome = .error failure →
      LogsBreakOff setting (Text.lines content) (compile setting content).logs) := by
  rw [compile]
  constructor
  -- a document that compiles has logged each of its pages, opening and closing in turns
  · intro compiled hcompiled
    obtain ⟨hpages, hwarnings⟩ := Assembly.told_of_run_eq_ok hcompiled
    have hopenings := filter_eq_of_filter_isOfPage isOfPage_of_isOpening hpages
    have hclosings := filter_eq_of_filter_isOfPage isOfPage_of_isClosing hpages
    rw [filter_isOpening_records] at hopenings
    rw [filter_isClosing_records] at hclosings
    obtain ⟨-, rfl⟩ := run_eq_ok_iff.mp hcompiled
    refine ⟨hwarnings, ?_, ?_, ?_, ?_⟩
    · rw [hpages, ← List.append_nil (List.flatMap _ _)]
      exact takeTurns_append _ .nil
    · rw [startNumbers_eq, List.length_map, Compiled.ofLines, List.length_map]
    · rw [hopenings, startNumbers_eq, List.map_map]
      rfl
    · rw [hclosings, Compiled.ofLines, List.map_map]
      rfl
  -- a document that fails has logged what the lines that were taken tell
  · intro failure hfailure
    obtain ⟨before, hbefore, hpages⟩ := Assembly.told_of_run_eq_error hfailure
    have hopenings := filter_eq_of_filter_isOfPage isOfPage_of_isOpening hpages
    have hclosings := filter_eq_of_filter_isOfPage isOfPage_of_isClosing hpages
    rw [filter_isOpening_pageLog] at hopenings
    rw [filter_isClosing_pageLog] at hclosings
    -- of the pages that have been opened only the last can be left open
    have hlength : (startNumbers setting.files setting.base 1 before).length =
        (closedBodies setting.files setting.base 1 before).length +
          (openBody? setting.files setting.base 1 before).toList.length := by
      rw [startNumbers_eq, List.length_map, pageBodies_eq, List.length_append]
    have hlast := Option.length_toList_le (o := openBody? setting.files setting.base 1 before)
    refine ⟨?_, ?_, ?_, ?_⟩
    · rw [hpages]
      exact takeTurns_pageLog setting before
    · rw [hopenings, hclosings, List.length_map, List.length_map]
      omega
    · rw [hopenings, hclosings, List.length_map, List.length_map]
      omega
    · rw [hopenings]
      exact (startNumbers_isPrefix 1 hbefore).map LogRecord.opening

/-- A document whose first page is closed by the next and whose second page by the end, and one
whose second page is empty where it would have to be closed. -/
theorem compile_logs_verbatim :
    LogsMirror (.verbatim {})
      (Text.lines "Hi\n-> START PAGE\nHo\n-> START PAGE\n-> FILECHECK a".toList)
      ⟨⟨[⟨[], "Ho".toList, [], none⟩, ⟨[], [], [.fileCheck "a".toList], none⟩]⟩,
        [.contentOutsidePage ⟨none, 1⟩, .nestedStartPage ⟨none, 4⟩ 2, .unterminatedPage ⟨none, 4⟩]⟩
      (compile (.verbatim {})
        "Hi\n-> START PAGE\nHo\n-> START PAGE\n-> FILECHECK a".toList).logs ∧
    (compile (.verbatim {})
        "Hi\n-> START PAGE\nHo\n-> START PAGE\n-> FILECHECK a".toList).logs.filter isOpening =
      [(.debug, "page opened on line 2".toList), (.debug, "page opened on line 4".toList)] ∧
    (compile (.verbatim {})
        "Hi\n-> START PAGE\nHo\n-> START PAGE\n-> FILECHECK a".toList).logs.filter isClosing =
      [(.debug, "page closed with 0 pre-commands, 0 post-checks".toList),
        (.debug, "page closed with 0 pre-commands, 1 post-checks".toList)] ∧
    (compile (.verbatim {})
        "Hi\n-> START PAGE\nHo\n-> START PAGE\n-> FILECHECK a".toList).logs.filter isWarning =
      [(.warn, "line 1: content outside of a page is ignored".toList),
        (.warn,
          "line 4: START PAGE while the page opened on line 2 is still open, closing it".toList),
        (.warn, "line 4: page is never closed with END PAGE".toList)] ∧
    LogsBreakOff (.verbatim {})
      (Text.lines "-> START PAGE\nHi\n-> START PAGE\n-> START PAGE".toList)
      (compile (.verbatim {}) "-> START PAGE\nHi\n-> START PAGE\n-> START PAGE".toList).logs := by
  have hcompiled : (compile (.verbatim {})
      "Hi\n-> START PAGE\nHo\n-> START PAGE\n-> FILECHECK a".toList).outcome =
        .ok ⟨⟨[⟨[], "Ho".toList, [], none⟩, ⟨[], [], [.fileCheck "a".toList], none⟩]⟩,
          [.contentOutsidePage ⟨none, 1⟩, .nestedStartPage ⟨none, 4⟩ 2,
            .unterminatedPage ⟨none, 4⟩]⟩ := by
    rfl
  have hfailed : (compile (.verbatim {})
      "-> START PAGE\nHi\n-> START PAGE\n-> START PAGE".toList).outcome =
        .error ⟨⟨none, 4⟩, "-> START PAGE".toList, .emptyPage⟩ := by
    rfl
  have hmirror := (compile_logs _ _).1 _ hcompiled
  exact ⟨hmirror, hmirror.openings, hmirror.closings, hmirror.warnings,
    (compile_logs _ _).2 _ hfailed⟩

end TutorialPages
