import Mathlib.Data.List.Flatten
import TutorialPages.Proofs.Document.Compiled

/-!
# Documents with grouping

When blocks are grouped, the text of a page is rendered fragment by fragment: each fenced block at
once, each other line by itself. Every line of text that is not blank stands in exactly one
fragment, in the order of the page.
-/

namespace TutorialPages

open Layout

namespace PageBody

/-! ## No line is lost -/

/-- The lines of the fragments of a page are lines of text of the page, in their order and no line
more often than it stands there. -/
theorem lines_fragments_sublist (grouped : Bool) (body : PageBody) :
    ((body.fragments grouped).flatMap Fragment.lines).Sublist body.textLines := by
  rw [← flatten_textRuns, fragments, List.flatMap_assoc, List.map_flatten, ← List.flatMap_def]
  apply List.Sublist.flatMap_right
  intro run _
  exact lines_cutRun_sublist grouped run

/-- Only blank lines of a page are left out of its fragments. -/
theorem filter_lines_fragments (grouped : Bool) (body : PageBody) :
    ((body.fragments grouped).flatMap Fragment.lines).filter (!Text.allBlank ·) =
      body.textLines.filter (!Text.allBlank ·) := by
  rw [← flatten_textRuns, fragments, List.flatMap_assoc, List.map_flatten, ← List.flatMap_def,
    List.filter_flatMap, List.filter_flatMap]
  congr 1
  funext run
  exact filter_lines_cutRun grouped run

end PageBody

/-! ## Accepted fragments -/

namespace Fragment

variable {setting : Setting} {fragment : Fragment}

/-- The HTML of an accepted fragment is what the renderer gives. -/
theorem Accepted.renderer_eq (h : fragment.Accepted setting) :
    setting.renderer fragment.source = .ok (fragment.html setting) := by
  obtain ⟨html, hrender⟩ := h.rendered
  rw [html_of_ok hrender, hrender]

/-- The image of an accepted line is what embedding gives. -/
theorem Accepted.embed_eq (h : fragment.Accepted setting) {text : Text}
    (hline : fragment = .line text) (hreference : Image.isReference text = true) :
    ∃ asset, (Image.embed setting.files setting.base text).outcome = .ok asset ∧
      fragment.asset? setting.files setting.base = some asset := by
  obtain ⟨asset, hembed⟩ := h.embedded text hline hreference
  refine ⟨asset, hembed, ?_⟩
  rw [hline, asset?, if_pos hreference, hembed]
  rfl

end Fragment

/-! ## Compiling with grouping -/

/-- With grouping each page is made of the fragments of its runs of text: its text is their HTML one
after another, its images are those of the single lines, and exactly the blocks without a closing
fence are warned about, each at the line that opens it. -/
theorem compile_grouped (setting : Setting) (content : Text) (compiled : Compiled)
    (hgrouped : setting.options.groupCodeFences = true)
    (hcompiled : (compile setting content).outcome = .ok compiled) :
    compiled.document.pages =
      (pageBodies setting.files setting.base 1 (Text.lines content)).map (fun body =>
        { preCommands := body.preCommands setting.files setting.base
          text := (body.fragments true).flatMap (Fragment.html setting)
          postChecks := body.postChecks setting.files setting.base
          assets := Page.assetsOf
            ((body.fragments true).filterMap (Fragment.asset? setting.files setting.base)) }) ∧
    (∀ body ∈ pageBodies setting.files setting.base 1 (Text.lines content),
      ∀ fragment ∈ body.fragments true,
        setting.renderer fragment.source = .ok (fragment.html setting) ∧
        ∀ text, fragment = .line text → Image.isReference text = true →
          ∃ asset, (Image.embed setting.files setting.base text).outcome = .ok asset ∧
            fragment.asset? setting.files setting.base = some asset) ∧
    (∀ body ∈ pageBodies setting.files setting.base 1 (Text.lines content),
      ((body.fragments true).flatMap Fragment.lines).Sublist body.textLines ∧
      ((body.fragments true).flatMap Fragment.lines).filter (!Text.allBlank ·) =
        body.textLines.filter (!Text.allBlank ·)) ∧
    compiled.warnings.filter Warning.isUnclosedCodeFence =
      ((pageBodies setting.files setting.base 1 (Text.lines content)).flatMap
        (PageBody.unclosedBlocks true)).map fun block =>
          .unclosedCodeFence ⟨setting.options.fileName, block.openedAt⟩ block.fence.marker := by
  obtain ⟨hadmissible, rfl⟩ := run_eq_ok_iff.mp hcompiled
  have haccepted := hadmissible.accepted
  have hunclosed := filter_unclosed_ofLines setting (Text.lines content)
  -- all four parts are about fragments with grouping
  rw [hgrouped] at haccepted hunclosed
  refine ⟨?_, fun body hbody fragment hfragment => ?_, fun body _ => ?_, hunclosed⟩
  · refine List.map_congr_left fun body _ => ?_
    rw [PageBody.page, hgrouped]
    rfl
  · have hfragment := haccepted body hbody fragment hfragment
    exact ⟨hfragment.renderer_eq, fun text hline => hfragment.embed_eq hline⟩
  · exact ⟨body.lines_fragments_sublist true, body.filter_lines_fragments true⟩

/-- A page with an image on a line by itself and another in a block that `END PAGE` ends. Only the
first is embedded, and of the second there is no file. -/
theorem compile_grouped_verbatim :
    (Setting.illustrated { groupCodeFences := true }).options.groupCodeFences = true ∧
    (compile (.illustrated { groupCodeFences := true })
        "-> START PAGE\n![](tux.png)\n~~~\n![](a)\n\n-> END PAGE\n".toList).outcome =
      .ok ⟨⟨[⟨[], "![](tux.png)~~~\n![](a)\n".toList, [],
        some [⟨"tux.png".toList, "AQID".toList⟩]⟩]⟩, [.unclosedCodeFence ⟨none, 3⟩ '~']⟩ ∧
    (pageBodies (Setting.illustrated { groupCodeFences := true }).files [] 1
      (Text.lines "-> START PAGE\n![](tux.png)\n~~~\n![](a)\n\n-> END PAGE\n".toList)).map
        (fun body => Page.assetsOf ((body.fragments true).filterMap
          (Fragment.asset? (Setting.illustrated { groupCodeFences := true }).files []))) =
      [some [⟨"tux.png".toList, "AQID".toList⟩]] ∧
    ((pageBodies (Setting.illustrated { groupCodeFences := true }).files [] 1
      (Text.lines "-> START PAGE\n![](tux.png)\n~~~\n![](a)\n\n-> END PAGE\n".toList)).flatMap
        (PageBody.unclosedBlocks true)).map (fun block =>
          Warning.unclosedCodeFence ⟨none, block.openedAt⟩ block.fence.marker) =
      [.unclosedCodeFence ⟨none, 3⟩ '~'] := by
  have hcompiled : (compile (.illustrated { groupCodeFences := true })
        "-> START PAGE\n![](tux.png)\n~~~\n![](a)\n\n-> END PAGE\n".toList).outcome =
      .ok ⟨⟨[⟨[], "![](tux.png)~~~\n![](a)\n".toList, [],
        some [⟨"tux.png".toList, "AQID".toList⟩]⟩]⟩, [.unclosedCodeFence ⟨none, 3⟩ '~']⟩ := by
    decide +kernel
  obtain ⟨hpages, -, -, hunclosed⟩ := compile_grouped (.illustrated { groupCodeFences := true })
    "-> START PAGE\n![](tux.png)\n~~~\n![](a)\n\n-> END PAGE\n".toList _ rfl hcompiled
  have hassets := congrArg (List.map Page.assets) hpages
  rw [List.map_map] at hassets
  exact ⟨rfl, hcompiled, hassets.symm, hunclosed.symm⟩

end TutorialPages
