import TutorialPages.Proofs.Assembly.Shift
import TutorialPages.Proofs.Document.Compiled
import TutorialPages.Proofs.Text.Lines

/-!
# One document after another

When a document has come to its end with no page left open, another one may be written behind it:
the assembly is then as empty as at its start, but for the finished pages and the warnings, so the
second document is compiled as by itself, further down.
-/

namespace TutorialPages

open Layout Traced

variable {setting : Setting} {first second : List Text} {front : Assembly} {compiled : Compiled}

/-! ## The end of the first document -/

/-- The open page has been opened on a line of the document. -/
theorem Assembly.one_le_openedAt_reached {page : OpenPage} {lines : List Text}
    (hcurrent : (reached setting lines).current = some page) : 1 ≤ page.draft.openedAt := by
  rw [reached, Option.map_eq_some_iff] at hcurrent
  obtain ⟨body, hopen, rfl⟩ := hcurrent
  exact (openBody?_number hopen).1

/-- A document that compiles without a warning about its last page leaves no page open, so all that
has been assembled is what it compiles to. -/
theorem run_without_open_page (hrun : (Assembly.run setting first).outcome = .ok compiled)
    (hterminated : ∀ location, .unterminatedPage location ∉ compiled.warnings) :
    ∃ front, (Assembly.feedAll setting 1 first Assembly.start).outcome = .ok front ∧
      front.current = none ∧ compiled = ⟨⟨front.pages⟩, front.warnings⟩ := by
  obtain ⟨front, hlines, hfinish⟩ := Assembly.run_eq_ok.mp hrun
  obtain ⟨-, rfl⟩ := Assembly.feedAll_start_eq_ok.mp hlines
  cases hopen : openBody? setting.files setting.base 1 first with
  | none =>
    have hcurrent := Assembly.current_reached_outside hopen
    rw [Assembly.finish_of_none hcurrent] at hfinish
    exact ⟨_, hlines, hcurrent, outcome_pure_eq_ok.mp hfinish⟩
  | some body =>
    -- an open page would have been warned about
    obtain ⟨-, rfl⟩ := run_eq_ok_iff.mp hrun
    have hwarning : .unterminatedPage (Assembly.locate setting.options body.openedAt) ∈
        (Compiled.ofLines setting first).warnings := by
      simp [Compiled.ofLines, lastWarnings, hopen]
    exact absurd hwarning (hterminated _)

/-- An assembly without an open page is one that has just been started, further down. -/
theorem Assembly.start_shift (k : Nat) (hcurrent : front.current = none) :
    start.shift k front = front := by
  obtain ⟨current, pages, warnings⟩ := front
  cases hcurrent
  simp [start, Assembly.shift]

/-! ## The second document -/

/-- The second document is compiled as by itself. -/
theorem run_shift (setting : Setting) (first second : List Text) (hcurrent : front.current = none) :
    Matches (fun failure failure' => failure' = failure.shift first.length)
      (fun compiled compiled' => compiled' =
        ⟨⟨front.pages ++ compiled.document.pages⟩,
          front.warnings ++ compiled.warnings.map (Warning.shift first.length)⟩)
      (Assembly.run setting second)
      (Assembly.feedAll setting (1 + first.length) second front >>=
        Assembly.finish setting (first ++ second)) := by
  have hlines := Assembly.feedAll_shift setting first.length front 1 second Assembly.start
  rw [Assembly.start_shift _ hcurrent] at hlines
  -- where the lines are taken, the last page has been opened on one of them
  refine hlines.bind_of_ok ?_
  intro last last' hlast hlast'
  subst hlast'
  obtain ⟨-, rfl⟩ := Assembly.feedAll_start_eq_ok.mp hlast
  exact Assembly.finish_shift first second _ fun page hpage =>
    Assembly.one_le_openedAt_reached hpage

/-- Documents compose: behind a document that leaves no page open, another one is compiled as by
itself, with all line numbers raised by the number of lines of the first. -/
theorem compile_append (setting : Setting) (first second : Text) (compiled : Compiled)
    (hends : first = [] ∨ first.getLast? = some '\n')
    (hfirst : (compile setting first).outcome = .ok compiled)
    (hterminated : ∀ location, .unterminatedPage location ∉ compiled.warnings) :
    (∀ compiled', (compile setting second).outcome = .ok compiled' →
      (compile setting (first ++ second)).outcome =
        .ok ⟨⟨compiled.document.pages ++ compiled'.document.pages⟩,
          compiled.warnings ++
            compiled'.warnings.map (Warning.shift (Text.lines first).length)⟩) ∧
    (∀ failure, (compile setting second).outcome = .error failure →
      (compile setting (first ++ second)).outcome =
        .error (failure.shift (Text.lines first).length)) ∧
    (compile setting (first ++ second)).reads =
      (compile setting first).reads ++ (compile setting second).reads := by
  obtain ⟨front, hlines, hcurrent, rfl⟩ := run_without_open_page hfirst hterminated
  -- behind the first document no page is open, so there the second one runs as at the start,
  -- shifted
  have hrest := run_shift setting (Text.lines first) (Text.lines second) hcurrent
  have hrun : compile setting (first ++ second) =
      Assembly.feedAll setting 1 (Text.lines first) Assembly.start >>= fun front =>
        Assembly.feedAll setting (1 + (Text.lines first).length) (Text.lines second) front >>=
          Assembly.finish setting (Text.lines first ++ Text.lines second) := by
    rw [compile, Text.lines_append first second hends, Assembly.run, Assembly.feedAll_append,
      bind_assoc]
  have houtcome := outcome_bind_of_ok hlines fun front =>
    Assembly.feedAll setting (1 + (Text.lines first).length) (Text.lines second) front >>=
      Assembly.finish setting (Text.lines first ++ Text.lines second)
  rw [← hrun] at houtcome
  -- outcome and readings of the whole are those behind the first document
  refine ⟨?_, ?_, ?_⟩
  · intro compiled' hsecond
    obtain ⟨_, hok, rfl⟩ := hrest.of_ok hsecond
    rw [houtcome, hok]
  · intro failure hsecond
    obtain ⟨_, herror, rfl⟩ := hrest.of_error hsecond
    rw [houtcome, herror]
  · have hreads : (compile setting first).reads =
        (Assembly.feedAll setting 1 (Text.lines first) Assembly.start).reads := by
      rw [compile, Assembly.run, reads_bind_of_ok hlines, Assembly.finish_of_none hcurrent,
        reads_pure, List.append_nil]
    rw [hrun, reads_bind_of_ok hlines, ← hrest.reads, hreads]
    rfl

/-- A page with text behind it, and a page with a marker too many. -/
theorem compile_append_verbatim :
    (compile (.verbatim {})
      ("-> START PAGE\nHi\n-> END PAGE\n".toList ++ "\nHo\n".toList)).outcome =
        .ok ⟨⟨[⟨[], "Hi".toList, [], none⟩]⟩, [.contentOutsidePage ⟨none, 5⟩]⟩ ∧
    (compile (.verbatim {})
      ("-> START PAGE\nHi\n-> END PAGE\n".toList ++ "\n-> END PAGE\n".toList)).outcome =
        .error ⟨⟨none, 5⟩, "-> END PAGE".toList, .unexpectedEndPage⟩ := by
  have hpage : (compile (.verbatim {}) "-> START PAGE\nHi\n-> END PAGE\n".toList).outcome =
      .ok ⟨⟨[⟨[], "Hi".toList, [], none⟩]⟩, []⟩ := by
    rfl
  have htext : (compile (.verbatim {}) "\nHo\n".toList).outcome =
      .ok ⟨⟨[]⟩, [.contentOutsidePage ⟨none, 2⟩]⟩ := by
    rfl
  have hmarker : (compile (.verbatim {}) "\n-> END PAGE\n".toList).outcome =
      .error ⟨⟨none, 2⟩, "-> END PAGE".toList, .unexpectedEndPage⟩ := by
    rfl
  obtain ⟨hok, -, -⟩ := compile_append (.verbatim {}) _ "\nHo\n".toList _ (.inr rfl) hpage
    (fun _ => List.not_mem_nil)
  obtain ⟨-, herror, -⟩ := compile_append (.verbatim {}) _ "\n-> END PAGE\n".toList _ (.inr rfl)
    hpage (fun _ => List.not_mem_nil)
  exact ⟨hok _ htext, herror _ hmarker⟩

end TutorialPages
