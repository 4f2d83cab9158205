import TutorialPages.Files.Catalogue
import TutorialPages.Proofs.Assembly.Reached

/-!
# Documents that compile

A document compiles exactly when its lines are admissible, and its pages and warnings are then those
that its lines determine. Both hold whether or not blocks are grouped.
-/

namespace TutorialPages

open Layout

/-- The lines of a document that can be compiled. -/
structure Admissible (setting : Setting) (lines : List Text) : Prop where
  /-- Every directive line can be read. -/
  readable : ∀ line ∈ lines, Directive.isMarked line = true →
    ∃ directive, directive? setting.files setting.base line = some directive
  /-- `END PAGE` and the commands stand on a page. -/
  enclosed : Enclosed setting.files setting.base lines
  /-- On no page text follows a post-check. -/
  textFirst : ∀ body ∈ pageBodies setting.files setting.base 1 lines,
    body.TextFirst setting.files setting.base
  /-- All fragments can be put on their pages. -/
  accepted : ∀ body ∈ pageBodies setting.files setting.base 1 lines,
    ∀ fragment ∈ body.fragments setting.options.groupCodeFences, fragment.Accepted setting
  /-- No page is empty. -/
  inhabited : ∀ body ∈ pageBodies setting.files setting.base 1 lines,
    (body.page setting).isEmpty = false
  /-- A page is open at the end only where that is allowed. -/
  terminated : leavesOpen setting.files setting.base lines = true →
    setting.options.allowUnterminatedPage = true

/-- The warnings about the page that is open at the end. -/
def lastWarnings (setting : Setting) (lines : List Text) : List Warning :=
  (openBody? setting.files setting.base 1 lines).toList.flatMap fun body =>
    .unterminatedPage (Assembly.locate setting.options body.openedAt) ::
      (body.pending? setting.options.groupCodeFences).toList.map (Block.warning setting.options)

/-- What the lines of a document compile to, if they compile. -/
def Compiled.ofLines (setting : Setting) (lines : List Text) : Compiled where
  document := ⟨(pageBodies setting.files setting.base 1 lines).map (PageBody.page setting)⟩
  warnings := linesWarnings setting [] lines ++ lastWarnings setting lines

variable {setting : Setting} {lines : List Text} {compiled : Compiled}

/-! ## The end of the lines -/

/-- The fragments of all pages are the settled ones and the block that waits at the end. -/
theorem accepted_pageBodies_iff :
    (∀ body ∈ pageBodies setting.files setting.base 1 lines,
        ∀ fragment ∈ body.fragments setting.options.groupCodeFences, fragment.Accepted setting) ↔
      (∀ fragment ∈ settledFragments setting.files setting.base
        setting.options.groupCodeFences lines, fragment.Accepted setting) ∧
      ∀ body, openBody? setting.files setting.base 1 lines = some body →
        ∀ block, body.pending? setting.options.groupCodeFences = some block →
          (Fragment.block block).Accepted setting := by
  rw [pageBodies_eq, settledFragments]
  -- the closed pages are alike on both sides, so the open page is left
  simp only [List.forall_mem_append, List.forall_mem_flatMap, and_assoc]
  refine and_congr_right fun _ => ?_
  cases openBody? setting.files setting.base 1 lines with
  | none => simp
  | some body => simp [PageBody.fragments_eq, or_imp, forall_and]

/-- Nothing more is asked of the lines than that they pass, and of the page that is open at the end
that it is complete. -/
theorem admissible_iff :
    Admissible setting lines ↔
      Passable setting lines ∧
      ∀ body, openBody? setting.files setting.base 1 lines = some body →
        setting.options.allowUnterminatedPage = true ∧
        (∀ block, body.pending? setting.options.groupCodeFences = some block →
          (Fragment.block block).Accepted setting) ∧
        (body.page setting).isEmpty = false := by
  constructor
  · intro h
    rcases h with ⟨hreadable, henclosed, hfirst, haccepted, hinhabited, hterminated⟩
    obtain ⟨hsettled, hpending⟩ := accepted_pageBodies_iff.mp haccepted
    -- the open page is the last of all pages, and what holds of all pages is split off for it
    rw [pageBodies_eq, List.forall_mem_append] at hinhabited
    refine ⟨⟨hreadable, henclosed, hfirst, hsettled, hinhabited.1⟩, fun body hopen => ?_⟩
    refine ⟨hterminated (by simp [leavesOpen_eq 1, hopen]), hpending body hopen, ?_⟩
    exact hinhabited.2 body (by simp [hopen])
  · intro h
    rcases h with ⟨⟨hreadable, henclosed, hfirst, hsettled, hinhabited⟩, hlast⟩
    refine ⟨hreadable, henclosed, hfirst, ?_, ?_, ?_⟩
    · exact accepted_pageBodies_iff.mpr ⟨hsettled, fun body hopen => (hlast body hopen).2.1⟩
    · rw [pageBodies_eq, List.forall_mem_append]
      refine ⟨hinhabited, fun body hbody => (hlast body ?_).2.2⟩
      simpa using hbody
    · intro hleaves
      rw [leavesOpen_eq 1, Option.isSome_iff_exists] at hleaves
      obtain ⟨body, hopen⟩ := hleaves
      exact (hlast body hopen).1

/-- The end of the lines is taken when the page that is open there is complete. -/
theorem finish_reached_eq_ok (hpassable : Passable setting lines) :
    (Assembly.finish setting lines (Assembly.reached setting lines)).outcome = .ok compiled ↔
      (∀ body, openBody? setting.files setting.base 1 lines = some body →
        setting.options.allowUnterminatedPage = true ∧
        (∀ block, body.pending? setting.options.groupCodeFences = some block →
          (Fragment.block block).Accepted setting) ∧
        (body.page setting).isEmpty = false) ∧
      compiled = .ofLines setting lines := by
  rw [Compiled.ofLines, pageBodies_eq, lastWarnings]
  cases hopen : openBody? setting.files setting.base 1 lines with
  | none =>
    have hcurrent := Assembly.current_reached_outside hopen
    rw [Assembly.finish_of_none hcurrent, Traced.outcome_pure_eq_ok]
    simp [Assembly.reached]
  | some body =>
    -- the page is closed as by `END PAGE`, once the warning about it is out
    have hcurrent := Assembly.current_reached_inside hopen
    have hfirst := hpassable.textFirst_of_openBody? hopen
    have hdraft : (body.openPage setting).draft.openedAt = body.openedAt := rfl
    rw [Assembly.finish_of_some hcurrent]
    simp only [Assembly.closeLast_eq_ok, PageBody.closePage_openPage_eq_ok hfirst, hdraft,
      Option.some.injEq, forall_eq']
    constructor
    · intro h
      rcases h with ⟨closed, ⟨hallowed, haccepted, hinhabited, rfl⟩, rfl⟩
      exact ⟨⟨hallowed, haccepted, hinhabited⟩, by simp [Assembly.reached]⟩
    · intro h
      rcases h with ⟨⟨hallowed, haccepted, hinhabited⟩, rfl⟩
      exact ⟨_, ⟨hallowed, haccepted, hinhabited, rfl⟩, by simp [Assembly.reached]⟩

/-! ## The whole document -/

/-- A document compiles exactly when its lines are admissible, and to what they determine. -/
theorem run_eq_ok_iff :
    (Assembly.run setting lines).outcome = .ok compiled ↔
      Admissible setting lines ∧ compiled = .ofLines setting lines := by
  rw [Assembly.run_eq_ok, admissible_iff]
  simp only [Assembly.feedAll_start_eq_ok]
  constructor
  · intro h
    rcases h with ⟨last, ⟨hpassable, rfl⟩, hfinish⟩
    obtain ⟨hlast, rfl⟩ := (finish_reached_eq_ok hpassable).mp hfinish
    exact ⟨⟨hpassable, hlast⟩, rfl⟩
  · intro h
    rcases h with ⟨⟨hpassable, hlast⟩, rfl⟩
    exact ⟨_, ⟨hpassable, rfl⟩, (finish_reached_eq_ok hpassable).mpr ⟨hlast, rfl⟩⟩

theorem run_succeeds_iff :
    (∃ compiled, (Assembly.run setting lines).outcome = .ok compiled) ↔
      Admissible setting lines := by
  simp [run_eq_ok_iff]

/-- The warnings about blocks name exactly the blocks of the pages without a closing fence. -/
theorem filter_unclosed_ofLines (setting : Setting) (lines : List Text) :
    (Compiled.ofLines setting lines).warnings.filter Warning.isUnclosedCodeFence =
      ((pageBodies setting.files setting.base 1 lines).flatMap
        (PageBody.unclosedBlocks setting.options.groupCodeFences)).map
          (Block.warning setting.options) := by
  rw [Compiled.ofLines, List.filter_append, filter_unclosed_linesWarnings, pageBodies_eq,
    flushedBlocks, lastWarnings]
  cases openBody? setting.files setting.base 1 lines with
  | none => simp
  | some body => simp [PageBody.unclosedBlocks_eq]

/-- All other warnings are about the place of a line, or about the page open at the end. -/
theorem filter_placement_ofLines (setting : Setting) (lines : List Text) :
    (Compiled.ofLines setting lines).warnings.filter (!Warning.isUnclosedCodeFence ·) =
      placementWarnings setting [] lines ++
        (openBody? setting.files setting.base 1 lines).toList.map fun body =>
          .unterminatedPage (Assembly.locate setting.options body.openedAt) := by
  rw [Compiled.ofLines, List.filter_append, filter_placement_linesWarnings, lastWarnings]
  cases openBody? setting.files setting.base 1 lines with
  | none => simp
  | some body => simp

/-! ## Settings to try documents in -/

/-- Each fragment is its own HTML, and there are no files. -/
def Setting.verbatim (options : Options) : Setting where
  base := []
  options
  renderer := .ok
  files := .ofBytes fun _ => .error ⟨.notFound, "no such file"⟩

/-- Each fragment is its own HTML, and there is one image. -/
def Setting.illustrated (options : Options) : Setting :=
  { verbatim options with files := Catalogue.source [("tux.png", .ok [1, 2, 3])] }

/-- Each fragment becomes HTML with a mark in front, and under each name there is an empty file. -/
def Setting.paragraphs : Setting where
  base := []
  options := {}
  renderer := fun fragment => .ok ('§' :: fragment)
  files := .ofBytes fun _ => .ok []

end TutorialPages
