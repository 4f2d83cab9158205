import TutorialPages.Proofs.Document.Compiled

/-!
# Documents without grouping

When blocks are not grouped, each line of text that is not blank is rendered by itself. Success and
outcome of compiling can then be stated on the lines alone: which directives they state, which page
they stand on, and what becomes of each line.
-/

namespace TutorialPages

open Layout

namespace PageBody

/-! ## The page line by line -/

/-- The lines of text of a page that are not blank. -/
def prose (body : PageBody) : List Text :=
  body.textLines.filter (!Text.allBlank ·)

/-- The page that the lines give one by one. -/
def plainPage (setting : Setting) (body : PageBody) : Page where
  preCommands := body.preCommands setting.files setting.base
  text := body.prose.flatMap fun line => (Fragment.line line).html setting
  postChecks := body.postChecks setting.files setting.base
  assets := Page.assetsOf <|
    body.textLines.filterMap fun line => (Fragment.line line).asset? setting.files setting.base

variable {setting : Setting} {body : PageBody}

/-- Without grouping each line of prose is a fragment. -/
theorem fragments_of_not_grouped (body : PageBody) :
    body.fragments false = body.prose.map .line := by
  rw [prose, ← flatten_textRuns, fragments]
  simp [cutRun, singleCut, Cut.fragments, List.flatMap, List.filter_map, List.filter_flatten,
    List.map_flatten, Function.comp_def]

theorem unclosedBlocks_of_not_grouped (body : PageBody) : body.unclosedBlocks false = [] := by
  simp [unclosedBlocks, cutRun, singleCut]

/-- Blank lines refer to no image, so it does not matter that they are left out. -/
theorem filterMap_asset?_prose (files : FileSource) (base : Path) (body : PageBody) :
    body.prose.filterMap (fun line => (Fragment.line line).asset? files base) =
      body.textLines.filterMap fun line => (Fragment.line line).asset? files base := by
  rw [prose, List.filterMap_filter]
  congr 1
  funext line
  -- a blank line has no image anyway
  cases hblank : Text.allBlank line with
  | true => simp [Fragment.asset?, isReference_of_allBlank hblank]
  | false => simp

theorem page_of_not_grouped (h : setting.options.groupCodeFences = false) :
    body.page setting = body.plainPage setting := by
  rw [page, h, fragments_of_not_grouped, pageWith, plainPage]
  simp only [List.flatMap_map, List.filterMap_map, Function.comp_def, filterMap_asset?_prose]

/-- A page without commands has no command line. -/
theorem no_command_iff (files : FileSource) (base : Path) (body : PageBody) :
    (body.preCommands files base = [] ∧ body.postChecks files base = []) ↔
      ∀ line ∈ body.lines, isCommand files base line = false := by
  simp only [preCommands, postChecks, List.filterMap_eq_nil_iff, isCommand, ← forall_and]
  refine forall_congr' fun line => ?_
  refine imp_congr_right fun _ => ?_
  cases directive? files base line with
  | none => simp
  | some directive =>
    cases directive with
    | startPage => simp [Directive.preCommand?, Directive.postCheck?, Directive.method?]
    | endPage => simp [Directive.preCommand?, Directive.postCheck?, Directive.method?]
    | pre command => simp [Directive.preCommand?, Directive.method?]
    | post check => simp [Directive.postCheck?, Directive.method?]

/-- A page is not empty when it has a command or text. -/
theorem inhabited_plainPage_iff :
    (body.plainPage setting).isEmpty = false ↔
      (∃ line ∈ body.lines, isCommand setting.files setting.base line = true) ∨
        (body.plainPage setting).text ≠ [] := by
  have hempty : (body.plainPage setting).isEmpty = true ↔
      (∀ line ∈ body.lines, isCommand setting.files setting.base line = false) ∧
        (body.plainPage setting).text = [] := by
    rw [← no_command_iff]
    simp only [Page.isEmpty, plainPage, Bool.and_eq_true, List.isEmpty_iff]
    constructor
    · intro h
      rcases h with ⟨⟨hpre, htext⟩, hpost⟩
      exact ⟨⟨hpre, hpost⟩, htext⟩
    · intro h
      rcases h with ⟨⟨hpre, hpost⟩, htext⟩
      exact ⟨⟨hpre, htext⟩, hpost⟩
  -- what is left is to negate both sides
  rw [← Bool.not_eq_true, hempty, not_and_or]
  simp

end PageBody

/-! ## Well-formed lines -/

/-- The lines of a document that compiles without grouping. -/
structure WellFormed (setting : Setting) (lines : List Text) : Prop where
  /-- Every directive line can be read. -/
  readable : ∀ line ∈ lines, Directive.isMarked line = true →
    ∃ directive, (Directive.read setting.files setting.base line).outcome = .ok directive
  /-- The nearest page marker before an `END PAGE` or a command is a `START PAGE`. -/
  enclosed : ∀ earlier line later, lines = earlier ++ line :: later →
    closesPage setting.files setting.base line = true ∨
      isCommand setting.files setting.base line = true →
    (nearestMarker? setting.files setting.base earlier).any
      (opensPage setting.files setting.base) = true
  /-- On a page no line of text, blank or not, follows a post-check. -/
  textFirst : ∀ body ∈ pageBodies setting.files setting.base 1 lines,
    body.lines.Pairwise fun earlier later =>
      isPostCheck setting.files setting.base earlier = true → Directive.isMarked later = true
  /-- The image that a line of text of a page refers to can be embedded. -/
  embedded : ∀ body ∈ pageBodies setting.files setting.base 1 lines, ∀ line ∈ body.lines,
    Directive.isMarked line = false → Image.isReference line = true →
    ∃ asset, (Image.embed setting.files setting.base line).outcome = .ok asset
  /-- A line of text of a page is rendered, unless it is blank. -/
  rendered : ∀ body ∈ pageBodies setting.files setting.base 1 lines, ∀ line ∈ body.lines,
    Directive.isMarked line = false → Text.allBlank line = false →
    ∃ html, setting.renderer line = .ok html
  /-- A page has a command or its text is not empty. -/
  inhabited : ∀ body ∈ pageBodies setting.files setting.base 1 lines,
    (∃ line ∈ body.lines, isCommand setting.files setting.base line = true) ∨
      (body.plainPage setting).text ≠ []
  /-- When the last page marker is a `START PAGE`, the page may stay open. -/
  terminated : (nearestMarker? setting.files setting.base lines).any
      (opensPage setting.files setting.base) = true →
    setting.options.allowUnterminatedPage = true

variable {setting : Setting} {lines : List Text}

/-- The fragments of a page are accepted when its lines of text are. -/
theorem accepted_iff_of_not_grouped (body : PageBody) :
    (∀ fragment ∈ body.fragments false, fragment.Accepted setting) ↔
      (∀ line ∈ body.lines, Directive.isMarked line = false → Image.isReference line = true →
        ∃ asset, (Image.embed setting.files setting.base line).outcome = .ok asset) ∧
      ∀ line ∈ body.lines, Directive.isMarked line = false → Text.allBlank line = false →
        ∃ html, setting.renderer line = .ok html := by
  simp only [PageBody.fragments_of_not_grouped, PageBody.prose, PageBody.textLines,
    List.forall_mem_map, Fragment.accepted_line_iff, List.mem_filter, Bool.not_eq_true']
  constructor
  · intro haccepted
    -- a blank line is no fragment and no image, so nothing has to be known about it
    refine ⟨fun line hline hmarked himage => ?_, fun line hline hmarked hblank => ?_⟩
    · cases hblank : Text.allBlank line with
      | true =>
        rw [isReference_of_allBlank hblank] at himage
        cases himage
      | false => exact (haccepted line ⟨⟨hline, hmarked⟩, hblank⟩).1 himage
    · exact (haccepted line ⟨⟨hline, hmarked⟩, hblank⟩).2
  · rintro ⟨hembedded, hrendered⟩ line ⟨⟨hline, hmarked⟩, hblank⟩
    exact ⟨hembedded line hline hmarked, hrendered line hline hmarked hblank⟩

/-- Without grouping the admissible lines are the well-formed ones. -/
theorem admissible_iff_wellFormed (h : setting.options.groupCodeFences = false) :
    Admissible setting lines ↔ WellFormed setting lines := by
  constructor
  · intro h
    rcases h with ⟨hreadable, henclosed, hfirst, haccepted, hinhabited, hterminated⟩
    rw [h] at haccepted
    simp only [accepted_iff_of_not_grouped] at haccepted
    simp only [PageBody.page_of_not_grouped h, PageBody.inhabited_plainPage_iff] at hinhabited
    refine ⟨fun line hline hmarked => ?_, henclosed, hfirst,
      fun body hbody => (haccepted body hbody).1, fun body hbody => (haccepted body hbody).2,
      hinhabited, hterminated⟩
    simpa only [directive?_eq_some_iff hmarked] using hreadable line hline hmarked
  · intro h
    rcases h with ⟨hreadable, henclosed, hfirst, hembedded, hrendered, hinhabited, hterminated⟩
    refine ⟨fun line hline hmarked => ?_, henclosed, hfirst, ?_, ?_, hterminated⟩
    · simpa only [directive?_eq_some_iff hmarked] using hreadable line hline hmarked
    · rw [h]
      intro body hbody
      exact (accepted_iff_of_not_grouped body).mpr ⟨hembedded body hbody, hrendered body hbody⟩
    · simpa only [PageBody.page_of_not_grouped h, PageBody.inhabited_plainPage_iff] using hinhabited

/-! ## Compiling without grouping -/

/-- Without grouping all warnings are about the place of a line. -/
theorem warnings_of_not_grouped (h : setting.options.groupCodeFences = false) :
    (Compiled.ofLines setting lines).warnings =
      placementWarnings setting [] lines ++
        (openBody? setting.files setting.base 1 lines).toList.map fun body =>
          .unterminatedPage (Assembly.locate setting.options body.openedAt) := by
  have hunclosed := filter_unclosed_ofLines setting lines
  rw [h, List.flatMap_eq_nil_iff.mpr fun body _ => body.unclosedBlocks_of_not_grouped,
    List.map_nil, List.filter_eq_nil_iff] at hunclosed
  rw [← filter_placement_ofLines]
  refine (List.filter_eq_self.mpr fun warning hwarning => ?_).symm
  simpa using hunclosed warning hwarning

/-- Without grouping a document compiles exactly when its lines are well-formed. Its pages are then
one for each `START PAGE`, with the commands, the rendered lines and the images between this marker
and the next, and its warnings are those about the place of its lines. -/
theorem compile_not_grouped (setting : Setting) (content : Text)
    (h : setting.options.groupCodeFences = false) :
    ((∃ compiled, (compile setting content).outcome = .ok compiled) ↔
      WellFormed setting (Text.lines content)) ∧
    ∀ compiled, (compile setting content).outcome = .ok compiled →
      compiled.document.pages =
        (pageBodies setting.files setting.base 1 (Text.lines content)).map
          (PageBody.plainPage setting) ∧
      compiled.document.pages.length =
        (Text.lines content).countP (opensPage setting.files setting.base) ∧
      compiled.warnings =
        placementWarnings setting [] (Text.lines content) ++
          (openBody? setting.files setting.base 1 (Text.lines content)).toList.map fun body =>
            .unterminatedPage (Assembly.locate setting.options body.openedAt) := by
  refine ⟨run_succeeds_iff.trans (admissible_iff_wellFormed h), fun compiled hcompiled => ?_⟩
  obtain ⟨-, rfl⟩ := run_eq_ok_iff.mp hcompiled
  refine ⟨?_, ?_, warnings_of_not_grouped h⟩
  · exact List.map_congr_left fun body _ => PageBody.page_of_not_grouped h
  · rw [Compiled.ofLines, List.length_map, length_pageBodies]

/-- A page with a line of text, an image and a command, left open at the end. -/
theorem compile_not_grouped_verbatim :
    (Setting.illustrated {}).options.groupCodeFences = false ∧
      WellFormed (.illustrated {})
        (Text.lines "-> START PAGE\nHi\n![](tux.png)\n-> ExecCommand ls\n".toList) ∧
      (pageBodies (Setting.illustrated {}).files [] 1
        (Text.lines "-> START PAGE\nHi\n![](tux.png)\n-> ExecCommand ls\n".toList)).map
          (PageBody.plainPage (.illustrated {})) =
        [⟨[.execCommand "ls".toList], "Hi![](tux.png)".toList, [],
          some [⟨"tux.png".toList, "AQID".toList⟩]⟩] := by
  have hcompiled : (compile (.illustrated {})
      "-> START PAGE\nHi\n![](tux.png)\n-> ExecCommand ls\n".toList).outcome =
        .ok ⟨⟨[⟨[.execCommand "ls".toList], "Hi![](tux.png)".toList, [],
          some [⟨"tux.png".toList, "AQID".toList⟩]⟩]⟩, [.unterminatedPage ⟨none, 1⟩]⟩ := by
    decide +kernel
  obtain ⟨hsucceeds, hpages⟩ := compile_not_grouped (.illustrated {})
    "-> START PAGE\nHi\n![](tux.png)\n-> ExecCommand ls\n".toList rfl
  exact ⟨rfl, hsucceeds.mp ⟨_, hcompiled⟩, (hpages _ hcompiled).1.symm⟩

end TutorialPages
