import TutorialPages.Proofs.Assembly.Failing
import TutorialPages.Proofs.Document.Compiled
import TutorialPages.Proofs.Text.Lines

/-!
# The first failure

A document that does not compile fails once, and the failure names the line that it comes from: the
first line that is refused, whatever follows it, or else the line that opened the page which cannot
be closed at the end.
-/

namespace TutorialPages

open Assembly Layout

variable {setting : Setting} {content : Text} {failure : Failure}

/-- Whatever follows the line that is refused, the failure is the same. -/
theorem compile_of_failsOnLine (h : FailsOnLine setting (Text.lines content) failure) {other : Text}
    (htake : (Text.lines other).take failure.location.line =
      (Text.lines content).take failure.location.line) :
    (compile setting other).outcome = .error failure :=
  run_eq_error_iff.mpr (.inl (h.of_take_eq htake))

/-- Before the line that is refused nothing is. -/
theorem compile_before_failsOnLine (h : FailsOnLine setting (Text.lines content) failure)
    {cut : Text}
    (hcut : Text.lines cut = (Text.lines content).take (failure.location.line - 1)) :
    (∃ compiled, (compile setting cut).outcome = .ok compiled) ∨
      ∃ failure', (compile setting cut).outcome = .error failure' ∧
        FailsAtEnd setting (Text.lines cut) failure' := by
  obtain ⟨middle, htaken⟩ := h.taken
  rw [← hcut] at htaken
  exact run_of_feedAll_eq_ok htaken

/-- The first failure decides, and it is located exactly. It names a line of the document with its
text. Either that line is refused: then the lines behind it do not matter, and the document cut
before it has nothing wrong but perhaps its last page. Or all lines are taken, and the page of the
last `START PAGE` is refused at the end. -/
theorem compile_first_failure (setting : Setting) (content : Text) (failure : Failure)
    (h : (compile setting content).outcome = .error failure) :
    (1 ≤ failure.location.line ∧ failure.location.line ≤ (Text.lines content).length ∧
      (Text.lines content)[failure.location.line - 1]? = some failure.lineText ∧
      failure.location.file = setting.options.fileName) ∧
    ((FailsOnLine setting (Text.lines content) failure ∧
        ¬FailsAtEnd setting (Text.lines content) failure ∧
        (∀ other, (Text.lines other).take failure.location.line =
            (Text.lines content).take failure.location.line →
          (compile setting other).outcome = .error failure) ∧
        (∃ cut, cut <+: content ∧
          Text.lines cut = (Text.lines content).take (failure.location.line - 1)) ∧
        (∀ cut, Text.lines cut = (Text.lines content).take (failure.location.line - 1) →
          (∃ compiled, (compile setting cut).outcome = .ok compiled) ∨
          ∃ failure', (compile setting cut).outcome = .error failure' ∧
            FailsAtEnd setting (Text.lines cut) failure')) ∨
      (FailsAtEnd setting (Text.lines content) failure ∧
        ¬FailsOnLine setting (Text.lines content) failure ∧
        LastStart setting.files setting.base (Text.lines content) failure.location.line
          failure.lineText ∧
        (setting.options.allowUnterminatedPage = false → failure.problem = .unterminatedPage) ∧
        (setting.options.allowUnterminatedPage = true →
          failure.problem = .emptyPage ∨ ∃ error, failure.problem = .refused error))) := by
  have hfile := file_of_run_eq_error h
  rcases run_eq_error_iff.mp h with hline | hend
  · obtain ⟨hfirst, hlast, htext⟩ := hline.located
    -- the line itself is refused
    refine ⟨⟨hfirst, hlast, htext, hfile⟩, .inl ⟨hline, hline.not_failsAtEnd, ?_, ?_, ?_⟩⟩
    · intro other htake
      exact compile_of_failsOnLine hline htake
    · exact Text.exists_cut content (failure.location.line - 1)
    · intro cut hcut
      exact compile_before_failsOnLine hline hcut
  -- all lines are taken, and the open page is refused
  · have hstart := hend.lastStart
    obtain ⟨hfirst, hlast⟩ := hstart.bounds
    have hproblem := hend.problem
    refine ⟨⟨hfirst, hlast, hstart.getElem?, hfile⟩, .inr ⟨hend, ?_, hstart, ?_, ?_⟩⟩
    · intro hline
      exact hline.not_failsAtEnd hend
    · intro hallowed
      rw [hallowed] at hproblem
      exact hproblem
    · intro hallowed
      rw [hallowed] at hproblem
      exact hproblem

/-- A marker too many is refused whatever follows, and an empty page at the end is refused on the
line that opened it. -/
theorem compile_first_failure_verbatim :
    (compile (.verbatim {}) "Ho\n-> END PAGE\n-> WAIT".toList).outcome =
        .error ⟨⟨none, 2⟩, "-> END PAGE".toList, .unexpectedEndPage⟩ ∧
      LastStart (Setting.verbatim {}).files (Setting.verbatim {}).base
        (Text.lines "Hi\n-> START PAGE".toList) 2 "-> START PAGE".toList := by
  refine ⟨?_, ?_⟩
  · have hmarker : (compile (.verbatim {}) "Ho\n-> END PAGE".toList).outcome =
        .error ⟨⟨none, 2⟩, "-> END PAGE".toList, .unexpectedEndPage⟩ := by
      rfl
    rcases (compile_first_failure _ _ _ hmarker).2 with ⟨-, -, hother, -⟩ | ⟨-, -, -, -, hproblem⟩
    · exact hother "Ho\n-> END PAGE\n-> WAIT".toList (by rfl)
    -- the other alternative speaks of an empty page or a refused fragment, not of a marker
    · rcases hproblem rfl with hempty | ⟨error, hrefused⟩
      · cases hempty
      · cases hrefused
  · have hempty : (compile (.verbatim {}) "Hi\n-> START PAGE".toList).outcome =
        .error ⟨⟨none, 2⟩, "-> START PAGE".toList, .emptyPage⟩ := by
      rfl
    have htext : (compile (.verbatim {}) "Hi\n-> START PAGE\nHo".toList).outcome =
        .ok ⟨⟨[⟨[], "Ho".toList, [], none⟩]⟩,
          [.contentOutsidePage ⟨none, 1⟩, .unterminatedPage ⟨none, 2⟩]⟩ := by
      rfl
    rcases (compile_first_failure _ _ _ hempty).2 with ⟨-, -, hother, -⟩ | ⟨-, -, hstart, -⟩
    · -- with text behind it the same line is taken
      have herror := hother "Hi\n-> START PAGE\nHo".toList (by rfl)
      rw [htext] at herror
      cases herror
    · exact hstart

end TutorialPages
