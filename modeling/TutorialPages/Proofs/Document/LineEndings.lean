import TutorialPages.Proofs.Document.Compiled
import TutorialPages.Proofs.Text.Lines

/-!
# How the lines of a document end

A line feed ends a line with or without a carriage return before it, and the last line needs no
ending. So two documents that differ in this alone have the same lines, and compiling them is the
same down to what is read and logged. Only the empty document has no line that an ending could
belong to: there an ending makes a blank line, which lies outside of any page.
-/

namespace TutorialPages

/-- A document of one blank line is compiled like the empty one. -/
theorem compile_of_blank_line (setting : Setting) {ending : Text}
    (h : ending = ['\n'] ∨ ending = ['\r', '\n']) :
    compile setting ending = compile setting [] := by
  rcases h with rfl | rfl
  · rfl
  · rfl

/-- It does not matter how the lines of a document end. Carriage returns may be put before any of
the line feeds of a document without carriage returns, and an ending may be put behind a last line
that has none. -/
theorem compile_lineEndings (setting : Setting) (content : Text) :
    ('\r' ∉ content → ∀ chosen,
      compile setting (Text.withReturns chosen 0 content) = compile setting content) ∧
    (content.getLast? ≠ some '\n' → content.getLast? ≠ some '\r' →
      ∀ ending, ending = ['\n'] ∨ ending = ['\r', '\n'] →
        compile setting (content ++ ending) = compile setting content) := by
  constructor
  · intro hreturn chosen
    rw [compile, compile, Text.lines_withReturns hreturn]
  · intro hfeed hreturn ending hending
    by_cases hnil : content = []
    · rw [hnil, List.nil_append]
      exact compile_of_blank_line setting hending
    -- the ending belongs to the last line, so there is no line more
    · rw [compile, compile, Text.lines_append_ending hending hnil hfeed hreturn]

/-- The second and the third line of a document, with a block that is closed by its last line, and
an ending behind that line. -/
theorem compile_lineEndings_verbatim :
    Text.withReturns (fun place => 14 ≤ place) 0 "-> START PAGE\n~~~\nHi\n~~~".toList =
      "-> START PAGE\n~~~\r\nHi\r\n~~~".toList ∧
    compile (.verbatim { groupCodeFences := true }) "-> START PAGE\n~~~\r\nHi\r\n~~~".toList =
      compile (.verbatim { groupCodeFences := true }) "-> START PAGE\n~~~\nHi\n~~~".toList ∧
    compile (.verbatim { groupCodeFences := true }) "-> START PAGE\n~~~\nHi\n~~~\r\n".toList =
      compile (.verbatim { groupCodeFences := true }) "-> START PAGE\n~~~\nHi\n~~~".toList := by
  obtain ⟨hreturns, hending⟩ := compile_lineEndings (.verbatim { groupCodeFences := true })
    "-> START PAGE\n~~~\nHi\n~~~".toList
  have hwritten : Text.withReturns (fun place => 14 ≤ place) 0
      "-> START PAGE\n~~~\nHi\n~~~".toList = "-> START PAGE\n~~~\r\nHi\r\n~~~".toList := by
    decide
  refine ⟨hwritten, ?_, ?_⟩
  · rw [← hwritten]
    exact hreturns (by decide) _
  · exact hending (by decide) (by decide) ['\r', '\n'] (.inr rfl)

end TutorialPages
