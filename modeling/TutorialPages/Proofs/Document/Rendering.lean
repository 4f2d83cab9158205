import TutorialPages.Proofs.Assembly.Rendering
import TutorialPages.Proofs.Document.Reading

/-!
# Documents under other renderers

A renderer decides the texts of the pages, and it may refuse a fragment. It has no say in anything
else: which pages there are, what stands on them beside the text, what is warned about, and which
files are read is the same for all renderers. Of two renderers that refuse nothing and return no
empty text, neither fails a document that the other compiles.
-/

namespace TutorialPages

open Layout Traced

variable {setting : Setting} {content : Text}

/-! ## What lines determine without a renderer -/

theorem linesWarnings_renderer (setting : Setting) (renderer : Renderer)
    (before lines : List Text) :
    linesWarnings { setting with renderer } before lines = linesWarnings setting before lines := by
  induction lines generalizing before with
  | nil => rfl
  | cons line rest ih =>
    rw [linesWarnings, linesWarnings, ih]
    rfl

theorem linesReads_renderer (setting : Setting) (renderer : Renderer)
    (before lines : List Text) :
    linesReads { setting with renderer } before lines = linesReads setting before lines := by
  induction lines generalizing before with
  | nil => rfl
  | cons line rest ih =>
    rw [linesReads, linesReads, ih]
    rfl

/-- The pages that lines compile to differ in their texts at most. -/
theorem sameButText_ofLines (setting : Setting) (renderer : Renderer) (lines : List Text) :
    (Compiled.ofLines setting lines).SameButText
      (Compiled.ofLines { setting with renderer } lines) where
  pages := by
    rw [Compiled.ofLines, Compiled.ofLines, List.forall₂_map_left_iff, List.forall₂_map_right_iff]
    exact List.forall₂_same.mpr fun body _ => ⟨rfl, rfl, rfl⟩
  warnings := by
    rw [Compiled.ofLines, Compiled.ofLines, linesWarnings_renderer setting renderer]
    rfl

/-! ## Two renderers -/

/-- Rendering does not interfere with anything but the texts. When both renderers let a document
compile, the results differ in the texts of the pages at most, and the same files are read. When
neither renderer ever refuses a fragment or returns an empty text, the document fails under both in
the same way or under neither. -/
theorem compile_renderers (setting : Setting) (renderer : Renderer) (content : Text) :
    (∀ compiled compiled', (compile setting content).outcome = .ok compiled →
      (compile { setting with renderer } content).outcome = .ok compiled' →
        compiled.SameButText compiled' ∧
        (compile setting content).reads = (compile { setting with renderer } content).reads) ∧
    (setting.renderer.NeverEmpty → renderer.NeverEmpty →
      (∀ failure, (compile setting content).outcome = .error failure ↔
        (compile { setting with renderer } content).outcome = .error failure) ∧
      (compile setting content).reads = (compile { setting with renderer } content).reads) := by
  constructor
  -- what compiles is written down from its lines, where only the texts ask for a renderer
  · intro compiled compiled' hcompiled hcompiled'
    obtain ⟨-, rfl⟩ := run_eq_ok_iff.mp hcompiled
    obtain ⟨-, rfl⟩ := run_eq_ok_iff.mp hcompiled'
    refine ⟨sameButText_ofLines setting renderer (Text.lines content), ?_⟩
    rw [reads_of_compile_eq_ok hcompiled, reads_of_compile_eq_ok hcompiled',
      linesReads_renderer setting renderer]
  -- every step goes on alike, since text is never empty for the one and not for the other
  · intro hfirst hsecond
    have hmatches := Assembly.run_alike hfirst hsecond (Text.lines content)
    refine ⟨fun failure => ⟨fun hfailure => ?_, fun hfailure => ?_⟩, hmatches.reads⟩
    · obtain ⟨failure', hfailure', rfl⟩ := hmatches.of_error hfailure
      exact hfailure'
    · -- a success here would be matched by a success there
      cases houtcome : (compile setting content).outcome with
      | ok compiled =>
        obtain ⟨compiled', hcompiled', -⟩ := hmatches.of_ok houtcome
        have hboth := hcompiled'.symm.trans hfailure
        cases hboth
      | error given =>
        obtain ⟨failure', hfailure', rfl⟩ := hmatches.of_error houtcome
        have hboth := hfailure'.symm.trans hfailure
        rw [Except.error.inj hboth]

/-- Each fragment becomes HTML with another mark in front. -/
def Renderer.marked : Renderer :=
  fun fragment => .ok ('¶' :: fragment)

theorem compile_renderers_marked :
    (∃ compiled', (compile { Setting.paragraphs with renderer := .marked }
        "-> START PAGE\n![](p)".toList).outcome = .ok compiled' ∧
      Compiled.SameButText ⟨⟨[⟨[], "§![](p)".toList, [], some [⟨"p".toList, []⟩]⟩]⟩,
        [.unterminatedPage ⟨none, 1⟩]⟩ compiled') ∧
    (compile { Setting.paragraphs with renderer := .marked }
      "-> START PAGE\n \n-> END PAGE".toList).outcome =
        .error ⟨⟨none, 3⟩, "-> END PAGE".toList, .emptyPage⟩ := by
  have hpage : (compile .paragraphs "-> START PAGE\n![](p)".toList).outcome =
      .ok ⟨⟨[⟨[], "§![](p)".toList, [], some [⟨"p".toList, []⟩]⟩]⟩,
        [.unterminatedPage ⟨none, 1⟩]⟩ := by
    rfl
  have hempty : (compile .paragraphs "-> START PAGE\n \n-> END PAGE".toList).outcome =
      .error ⟨⟨none, 3⟩, "-> END PAGE".toList, .emptyPage⟩ := by
    rfl
  obtain ⟨hpages, -⟩ := compile_renderers .paragraphs .marked "-> START PAGE\n![](p)".toList
  obtain ⟨-, hfailures⟩ := compile_renderers .paragraphs .marked
    "-> START PAGE\n \n-> END PAGE".toList
  refine ⟨⟨_, rfl, (hpages _ _ hpage rfl).1⟩, ?_⟩
  refine ((hfailures ?_ ?_).1 _).mp hempty
  · exact fun fragment => ⟨_, rfl, List.cons_ne_nil _ _⟩
  · exact fun fragment => ⟨_, rfl, List.cons_ne_nil _ _⟩

end TutorialPages
