import TutorialPages.Proofs.Assembly.Relocation
import TutorialPages.Proofs.Document.ExplicitEnds
import TutorialPages.Proofs.Document.FirstFailure
import TutorialPages.Proofs.Document.Warnings

/-!
# Options that change one thing only

The name of a document stands in its diagnostics and nowhere else. Whether a page may be open at the
end is asked there alone, when the lines have all been taken and a page is open behind them.
-/

namespace TutorialPages

open Assembly Layout Traced

/-! ## The name of the document -/

/-- The setting where the document has the given name, or none. -/
def Setting.named (setting : Setting) (name : Option Text) : Setting :=
  { setting with options.fileName := name }

/-- The same line of a document that has the given name. -/
def Relocation.naming (name : Option Text) : Relocation :=
  ⟨fun _ => name, id⟩

namespace Assembly

variable {setting : Setting} {lines : List Text} {last : Assembly} {page : OpenPage}

/-- Under another name lines do the same, and diagnostics give the other name. -/
theorem run_named (setting : Setting) (name : Option Text) (lines : List Text) :
    Matches (fun failure failure' => failure' = failure.relocate (.naming name))
      (fun compiled compiled' => compiled' =
        ⟨compiled.document, compiled.warnings.map (Warning.relocate (.naming name))⟩)
      (run setting lines) (run (setting.named name) lines) := by
  -- before the first line nothing has been written down yet
  have hlines := feedAll_relocate setting (.naming name) start 1 lines start fun _ _ => rfl
  refine hlines.bind ?_
  intro last last' hlast
  subst hlast
  exact finish_relocate setting start fun _ _ => rfl

/-! ## A page that is open at the end -/

/-- All lines are taken, and a page is open behind them. -/
def EndsInside (setting : Setting) (lines : List Text) : Prop :=
  ∃ last page, (feedAll setting 1 lines start).outcome = .ok last ∧ last.current = some page

/-- Where a line is refused, or no page is open behind the lines, nothing asks if one may be. -/
theorem run_allowing_of_not_endsInside (h : ¬EndsInside setting lines) (allow : Bool) :
    run (setting.allowing allow) lines = run setting lines := by
  rw [run, run, feedAll_allowing]
  refine bind_congr_of_ok fun last htaken => ?_
  cases hcurrent : last.current with
  | none => rw [finish_of_none hcurrent, finish_of_none hcurrent]
  | some page => exact absurd ⟨last, page, htaken, hcurrent⟩ h

/-- Where no page may be open at the end, an open page is refused as such. -/
theorem run_allowing_false (htaken : (feedAll setting 1 lines start).outcome = .ok last)
    (hcurrent : last.current = some page) :
    (run (setting.allowing false) lines).outcome =
      .error (failureAt setting page.draft.openedAt (lines[page.draft.openedAt - 1]?.getD [])
        .unterminatedPage) := by
  rw [← feedAll_allowing setting false] at htaken
  refine run_eq_error_iff.mpr (.inr ⟨last, page, .unterminatedPage, htaken, hcurrent, ?_, rfl⟩)
  -- where the page must not stay open, the end asks for nothing else
  rfl

/-- Where a page may be open at the end, an open page is warned about, or it cannot be closed. -/
theorem run_allowing_true (htaken : (feedAll setting 1 lines start).outcome = .ok last)
    (hcurrent : last.current = some page) :
    (∃ compiled, (run (setting.allowing true) lines).outcome = .ok compiled ∧
      compiled.warnings.filter Warning.isUnterminatedPage =
        [.unterminatedPage (locate setting.options page.draft.openedAt)]) ∨
    ∃ problem, problem.IsOfClosing ∧
      (run (setting.allowing true) lines).outcome =
        .error (failureAt setting page.draft.openedAt (lines[page.draft.openedAt - 1]?.getD [])
          problem) := by
  rw [← feedAll_allowing setting true] at htaken
  rcases run_of_feedAll_eq_ok htaken with ⟨compiled, hok⟩ | ⟨failure, herror, hend⟩
  · refine .inl ⟨compiled, hok, ?_⟩
    obtain ⟨-, rfl⟩ := run_eq_ok_iff.mp hok
    -- the open page is the one whose lines are still collected
    obtain ⟨-, rfl⟩ := feedAll_start_eq_ok.mp htaken
    rw [reached, Option.map_eq_some_iff] at hcurrent
    obtain ⟨body, hopen, rfl⟩ := hcurrent
    rw [filter_unterminated_ofLines, hopen]
    rfl
  · refine .inr ⟨failure.problem, hend.problem, ?_⟩
    obtain ⟨last', page', problem, htaken', hcurrent', -, rfl⟩ := hend
    -- there is one way to take the lines, so it is the same page
    obtain rfl : last' = last := Except.ok.inj (htaken'.symm.trans htaken)
    obtain rfl : page' = page := Option.some.inj (hcurrent'.symm.trans hcurrent)
    exact herror

end Assembly

/-- Options act only where they should. Two settings that differ in the name of the document alone
lead to the same pages, or to the same failure of the same line, and to the same warnings, with the
other name in their locations. And whether a page may be open at the end makes no difference, not
even to what is read and logged, unless all lines are taken with a page open behind them: then the
page that the last `START PAGE` opened is refused as such where it may not stay open, and elsewhere
it is warned about once, or it cannot be closed. -/
theorem compile_options (setting : Setting) (content : Text) :
    (∀ name,
      (∀ compiled, (compile setting content).outcome = .ok compiled →
        (compile (setting.named name) content).outcome =
          .ok ⟨compiled.document, compiled.warnings.map (Warning.relocate (.naming name))⟩) ∧
      (∀ failure, (compile setting content).outcome = .error failure →
        (compile (setting.named name) content).outcome =
          .error (failure.relocate (.naming name))) ∧
      (compile (setting.named name) content).reads = (compile setting content).reads) ∧
    (¬EndsInside setting (Text.lines content) →
      compile (setting.allowing false) content = compile (setting.allowing true) content) ∧
    (EndsInside setting (Text.lines content) →
      ∃ number line,
        LastStart setting.files setting.base (Text.lines content) number line ∧
        (compile (setting.allowing false) content).outcome =
          .error ⟨⟨setting.options.fileName, number⟩, line, .unterminatedPage⟩ ∧
        ((∃ compiled, (compile (setting.allowing true) content).outcome = .ok compiled ∧
            compiled.warnings.filter Warning.isUnterminatedPage =
              [.unterminatedPage ⟨setting.options.fileName, number⟩]) ∨
          ∃ problem, (problem = .emptyPage ∨ ∃ error, problem = .refused error) ∧
            (compile (setting.allowing true) content).outcome =
              .error ⟨⟨setting.options.fileName, number⟩, line, problem⟩)) := by
  refine ⟨fun name => ?_, fun hends => ?_, fun hends => ?_⟩
  -- all lines are taken alike, and locations are the only place where the name goes
  · have hnamed := run_named setting name (Text.lines content)
    refine ⟨?_, ?_, hnamed.reads.symm⟩
    · intro compiled hok
      obtain ⟨_, hok', rfl⟩ := hnamed.of_ok hok
      exact hok'
    · intro failure herror
      obtain ⟨_, herror', rfl⟩ := hnamed.of_error herror
      exact herror'
  · calc compile (setting.allowing false) content
        = compile setting content := run_allowing_of_not_endsInside hends false
      _ = compile (setting.allowing true) content :=
          (run_allowing_of_not_endsInside hends true).symm
  · obtain ⟨last, page, htaken, hcurrent⟩ := hends
    obtain ⟨line, hstart⟩ := ((sound_of_feedAll_eq_ok htaken).current page hcurrent).openedAt
    have hrefused := run_allowing_false htaken hcurrent
    have hallowed := run_allowing_true htaken hcurrent
    -- the failures give the text of the line that opened the page
    rw [hstart.getElem?, Option.getD_some] at hrefused hallowed
    exact ⟨page.draft.openedAt, line, hstart, hrefused, hallowed⟩

/-- A page with a block that is never closed, in a document with a name and in one without. -/
theorem compile_options_verbatim :
    (compile ((Setting.verbatim { groupCodeFences := true }).named (some "a.md".toList))
        "-> START PAGE\n~~~".toList).outcome =
      .ok ⟨⟨[⟨[], "~~~".toList, [], none⟩]⟩,
        [.unterminatedPage ⟨some "a.md".toList, 1⟩,
          .unclosedCodeFence ⟨some "a.md".toList, 2⟩ '~']⟩ ∧
    (compile ((Setting.verbatim { groupCodeFences := true }).allowing false)
        "-> START PAGE\n~~~".toList).outcome =
      .error ⟨⟨none, 1⟩, "-> START PAGE".toList, .unterminatedPage⟩ ∧
    compile ((Setting.verbatim {}).allowing false) "Ho".toList =
      compile ((Setting.verbatim {}).allowing true) "Ho".toList := by
  obtain ⟨hnamed, -, hinside⟩ := compile_options (.verbatim { groupCodeFences := true })
    "-> START PAGE\n~~~".toList
  have hcompiled : (compile (.verbatim { groupCodeFences := true })
      "-> START PAGE\n~~~".toList).outcome =
      .ok ⟨⟨[⟨[], "~~~".toList, [], none⟩]⟩,
        [.unterminatedPage ⟨none, 1⟩, .unclosedCodeFence ⟨none, 2⟩ '~']⟩ := by
    rfl
  have hends : EndsInside (.verbatim { groupCodeFences := true })
      (Text.lines "-> START PAGE\n~~~".toList) :=
    ⟨⟨some ⟨⟨1, .blank⟩, some ⟨'~', 3⟩, some ⟨2, '~', "~~~".toList⟩⟩, [], []⟩, _, by rfl, rfl⟩
  have houtside : ¬EndsInside (.verbatim {}) (Text.lines "Ho".toList) := by
    rintro ⟨last, page, htaken, hcurrent⟩
    -- the line is outside of any page, and nothing opens one
    have htext : (feedAll (.verbatim {}) 1 (Text.lines "Ho".toList) start).outcome =
        .ok ⟨none, [], [.contentOutsidePage ⟨none, 1⟩]⟩ := by
      rfl
    rw [htext] at htaken
    cases htaken
    cases hcurrent
  obtain ⟨number, line, hstart, hrefused, -⟩ := hinside hends
  have hfirst : LastStart (Setting.verbatim { groupCodeFences := true }).files []
      (Text.lines "-> START PAGE\n~~~".toList) 1 "-> START PAGE".toList :=
    ⟨[], ["~~~".toList], rfl, rfl, by rfl, List.forall_mem_singleton.mpr (by rfl)⟩
  obtain rfl := hstart.unique hfirst
  obtain rfl := Option.some.inj (hstart.getElem?.symm.trans hfirst.getElem?)
  exact ⟨(hnamed _).1 _ hcompiled, hrefused,
    (compile_options (.verbatim {}) "Ho".toList).2.1 houtside⟩

end TutorialPages
