import Mathlib.Data.List.Forall2
import TutorialPages.Proofs.Document.Grouped
import TutorialPages.Proofs.Document.Plain

/-!
# Grouping and no grouping

Whether blocks are grouped decides how the text of a page is cut, and nothing else: the same lines
are directives, the same pages come out with the same commands, and the same lines are warned about.
Images are looked for outside of blocks alone, so grouping may leave some out.
-/

namespace TutorialPages

open Layout

/-- The setting with blocks grouped, or not. -/
def Setting.withGrouping (setting : Setting) (grouped : Bool) : Setting :=
  { setting with options.groupCodeFences := grouped }

/-! ## Fragments of both kinds -/

/-- The line that is a fragment by itself. -/
def Fragment.line? : Fragment → Option Text
  | .line text => some text
  | .block _ => none

namespace Layout

/-- The single lines of a grouped run are among its lines when it is not grouped; `f` picks what is
looked at in a single line. -/
theorem filterMap_groupedCut_sublist {α : Type} (f : Fragment → Option α)
    (hf : ∀ block, f (.block block) = none) (run : List NumberedLine) :
    ((groupedCut run).fragments.filterMap f).Sublist ((singleCut run).fragments.filterMap f) := by
  have hsingle : ∀ run : List NumberedLine, (singleCut run).fragments =
      (run.filter fun line => !Text.allBlank line.1).map fun line => .line line.1 := by
    intro run
    simp [singleCut, Cut.fragments]
  simp only [hsingle]
  induction run using run_induction with
  | nil => simp [groupedCut, Cut.fragments]
  | blank line number rest hblank ih =>
    -- a blank line is no fragment, grouped or not
    rw [groupedCut_blank hblank]
    simpa [hblank] using ih
  | single line number rest hblank hopener ih =>
    -- the line is a fragment in both, and `f` keeps it in both or in none
    rw [groupedCut_line hblank hopener, Cut.fragments_cons]
    simp only [hblank, Bool.not_false, List.filter_cons_of_pos, List.map_cons,
      List.filterMap_cons]
    cases f (.line line) with
    | none => exact ih
    | some value => exact ih.cons_cons value
  | unclosed line number rest fence hblank hopener hrest =>
    -- nothing of the block is kept on the left, whatever its lines leave on the right
    rw [groupedCut_unclosed hblank hopener hrest]
    simp [Cut.fragments, hf]
  | block line number inside closer others fence hblank hopener hinside hcloser ih =>
    -- the lines of the block come before those of the others
    rw [groupedCut_block hblank hopener hinside hcloser, Cut.fragments_cons, List.filterMap_cons,
      hf]
    refine ih.trans ?_
    apply List.Sublist.filterMap
    apply List.Sublist.map
    apply List.Sublist.filter
    apply List.Sublist.cons
    exact (List.sublist_cons_self closer others).trans (List.sublist_append_right inside _)

end Layout

namespace PageBody

theorem filterMap_fragments_sublist {α : Type} (f : Fragment → Option α)
    (hf : ∀ block, f (.block block) = none) (body : PageBody) :
    ((body.fragments true).filterMap f).Sublist ((body.fragments false).filterMap f) := by
  rw [fragments, fragments, List.filterMap_flatMap, List.filterMap_flatMap]
  apply List.Sublist.flatMap_right
  intro run _
  exact filterMap_groupedCut_sublist f hf run

/-- A single line of a grouped page is a single line when it is not grouped. -/
theorem mem_fragments_of_mem {body : PageBody} {line : Text}
    (h : .line line ∈ body.fragments true) : .line line ∈ body.fragments false := by
  have hsublist := body.filterMap_fragments_sublist Fragment.line? fun _ => rfl
  have hline := hsublist.subset (List.mem_filterMap.mpr ⟨_, h, rfl⟩)
  obtain ⟨fragment, hfragment, hpicked⟩ := List.mem_filterMap.mp hline
  cases fragment with
  | line text =>
    cases hpicked
    exact hfragment
  | block block => cases hpicked

/-- A page that has fragments without grouping has some with grouping. -/
theorem fragments_false_of_true {body : PageBody} (h : body.fragments true = []) :
    body.fragments false = [] := by
  -- the prose of a page does not depend on the cut, and without fragments there is none
  have hprose : body.prose = [] := by
    rw [prose, ← filter_lines_fragments true, h]
    rfl
  rw [fragments_of_not_grouped, hprose, List.map_nil]

end PageBody

/-! ## Pages -/

variable {setting : Setting} {lines : List Text}

/-- Grouping has no bearing on commands, and leaves at most images out. -/
theorem PageBody.page_withGrouping (setting : Setting) (body : PageBody) :
    (body.page (setting.withGrouping true)).preCommands =
        (body.page (setting.withGrouping false)).preCommands ∧
      (body.page (setting.withGrouping true)).postChecks =
        (body.page (setting.withGrouping false)).postChecks ∧
      ((body.page (setting.withGrouping true)).assets.getD []).Sublist
        ((body.page (setting.withGrouping false)).assets.getD []) := by
  refine ⟨rfl, rfl, ?_⟩
  simp only [PageBody.page, PageBody.pageWith, Page.getD_assetsOf]
  exact body.filterMap_fragments_sublist _ fun _ => rfl

/-- Grouping has no bearing on what is said about the place of a line. -/
theorem placementWarnings_withGrouping (setting : Setting) (grouped : Bool)
    (before lines : List Text) :
    placementWarnings (setting.withGrouping grouped) before lines =
      placementWarnings setting before lines := by
  induction lines generalizing before with
  | nil => rfl
  | cons line rest ih =>
    rw [placementWarnings, placementWarnings, ih]
    rfl

/-- When every fragment has HTML, a page with text keeps some with grouping. -/
theorem PageBody.isEmpty_page_withGrouping {body : PageBody}
    (hrenderer : ∀ fragment, ∃ html, setting.renderer fragment = .ok html ∧ html ≠ [])
    (h : (body.page (setting.withGrouping false)).isEmpty = false) :
    (body.page (setting.withGrouping true)).isEmpty = false := by
  have htext : (body.page (setting.withGrouping true)).text = [] →
      (body.page (setting.withGrouping false)).text = [] := by
    intro hnil
    -- a fragment would have left its HTML in the text
    have hfragments : body.fragments true = [] := by
      refine List.eq_nil_iff_forall_not_mem.mpr fun fragment hfragment => ?_
      obtain ⟨html, hrender, hne⟩ := hrenderer fragment.source
      have hhtml : fragment.html (setting.withGrouping true) = [] :=
        List.flatMap_eq_nil_iff.mp hnil fragment hfragment
      have hsome : fragment.html (setting.withGrouping true) = html := Fragment.html_of_ok hrender
      exact hne (hsome.symm.trans hhtml)
    show (body.fragments false).flatMap (Fragment.html (setting.withGrouping false)) = []
    rw [fragments_false_of_true hfragments, List.flatMap_nil]
  cases hgrouped : (body.page (setting.withGrouping true)).isEmpty with
  | false => rfl
  | true =>
    simp only [Page.isEmpty, Bool.and_eq_true, List.isEmpty_iff] at hgrouped
    obtain ⟨⟨hpre, hnil⟩, hpost⟩ := hgrouped
    have hplain : (body.page (setting.withGrouping false)).isEmpty = true := by
      simp only [Page.isEmpty, Bool.and_eq_true, List.isEmpty_iff]
      exact ⟨⟨hpre, htext hnil⟩, hpost⟩
    rw [hplain] at h
    cases h

/-- When every fragment has HTML, admissible lines stay admissible with grouping. -/
theorem admissible_withGrouping
    (hrenderer : ∀ fragment, ∃ html, setting.renderer fragment = .ok html ∧ html ≠ [])
    (h : Admissible (setting.withGrouping false) lines) :
    Admissible (setting.withGrouping true) lines := by
  obtain ⟨hreadable, henclosed, hfirst, haccepted, hinhabited, hterminated⟩ := h
  -- what is said about lines alone is the same with grouping
  refine ⟨hreadable, henclosed, hfirst, ?_, ?_, hterminated⟩
  · intro body hbody fragment hfragment
    obtain ⟨html, hrender, -⟩ := hrenderer fragment.source
    refine ⟨fun text htext himage => ?_, html, hrender⟩
    rw [htext] at hfragment
    have hplain := haccepted body hbody _ (PageBody.mem_fragments_of_mem hfragment)
    exact hplain.embedded text rfl himage
  · intro body hbody
    exact PageBody.isEmpty_page_withGrouping hrenderer (hinhabited body hbody)

/-! ## Compiling both ways -/

/-- Grouping hides no directive: compiled with and without it, a document has the same pages up to
their text, with the same commands and at most the same images, and the same warnings besides those
about blocks. When every fragment has HTML, a document that compiles without grouping compiles with
it. Both ways the document finds the same files: a file source is a function of the path, so what a
path gives does not depend on what has been read before. -/
theorem compile_withGrouping (setting : Setting) (content : Text) :
    (∀ grouped plain,
      (compile (setting.withGrouping true) content).outcome = .ok grouped →
      (compile (setting.withGrouping false) content).outcome = .ok plain →
      List.Forall₂ (fun groupedPage plainPage =>
          groupedPage.preCommands = plainPage.preCommands ∧
          groupedPage.postChecks = plainPage.postChecks ∧
          (groupedPage.assets.getD []).Sublist (plainPage.assets.getD []))
        grouped.document.pages plain.document.pages ∧
      grouped.warnings.filter (!Warning.isUnclosedCodeFence ·) = plain.warnings) ∧
    ((∀ fragment, ∃ html, setting.renderer fragment = .ok html ∧ html ≠ []) →
      (∃ plain, (compile (setting.withGrouping false) content).outcome = .ok plain) →
      ∃ grouped, (compile (setting.withGrouping true) content).outcome = .ok grouped) := by
  constructor
  · intro grouped plain hgrouped hplain
    -- both documents are written down from the same lines, and differ in the cut alone
    obtain ⟨-, rfl⟩ := run_eq_ok_iff.mp hgrouped
    obtain ⟨-, rfl⟩ := run_eq_ok_iff.mp hplain
    constructor
    · simp only [Compiled.ofLines, List.forall₂_map_left_iff, List.forall₂_map_right_iff]
      exact List.forall₂_same.mpr fun body _ => PageBody.page_withGrouping setting body
    · rw [filter_placement_ofLines, warnings_of_not_grouped rfl, placementWarnings_withGrouping,
        placementWarnings_withGrouping]
      rfl
  · intro hrenderer hplain
    exact run_succeeds_iff.mpr (admissible_withGrouping hrenderer (run_succeeds_iff.mp hplain))

/-- A stray fence before an image: with grouping the image is part of a block. -/
theorem compile_withGrouping_paragraphs :
    (∀ fragment, ∃ html, Setting.paragraphs.renderer fragment = .ok html ∧ html ≠ []) ∧
    ∃ grouped plain,
      (compile (Setting.paragraphs.withGrouping true)
        "-> START PAGE\n~~~\n![a](b)\n-> END PAGE\n".toList).outcome = .ok grouped ∧
      (compile (Setting.paragraphs.withGrouping false)
        "-> START PAGE\n~~~\n![a](b)\n-> END PAGE\n".toList).outcome = .ok plain ∧
      grouped.document.pages.map Page.assets = [none] ∧
      plain.document.pages.map Page.assets = [some [⟨"b".toList, []⟩]] ∧
      grouped.warnings.filter (!Warning.isUnclosedCodeFence ·) = plain.warnings := by
  have hrenderer : ∀ fragment, ∃ html,
      Setting.paragraphs.renderer fragment = .ok html ∧ html ≠ [] :=
    fun fragment => ⟨'§' :: fragment, rfl, List.cons_ne_nil _ _⟩
  have hplain : (compile (Setting.paragraphs.withGrouping false)
      "-> START PAGE\n~~~\n![a](b)\n-> END PAGE\n".toList).outcome =
        .ok ⟨⟨[⟨[], "§~~~§![a](b)".toList, [], some [⟨"b".toList, []⟩]⟩]⟩, []⟩ := by
    rfl
  have hgrouped : (compile (Setting.paragraphs.withGrouping true)
      "-> START PAGE\n~~~\n![a](b)\n-> END PAGE\n".toList).outcome =
        .ok ⟨⟨[⟨[], "§~~~\n![a](b)".toList, [], none⟩]⟩, [.unclosedCodeFence ⟨none, 2⟩ '~']⟩ := by
    rfl
  obtain ⟨hboth, hsucceeds⟩ := compile_withGrouping Setting.paragraphs
    "-> START PAGE\n~~~\n![a](b)\n-> END PAGE\n".toList
  obtain ⟨grouped, hcompiled⟩ := hsucceeds hrenderer ⟨_, hplain⟩
  obtain ⟨-, hwarnings⟩ := hboth grouped _ hcompiled hplain
  rw [hgrouped] at hcompiled
  cases hcompiled
  exact ⟨hrenderer, _, _, hgrouped, hplain, rfl, rfl, hwarnings⟩

end TutorialPages
