import TutorialPages.Proofs.Layout.PageText

/-!
# What lines have brought about

Behind some of the lines of a document, part of its pages is fixed: these fragments, blocks and
warnings no further line takes back. The laws named `_concat` say what one more line adds.
-/

namespace TutorialPages

/-- Whether a warning is about a block without a closing fence. -/
def Warning.isUnclosedCodeFence : Warning → Bool
  | .unclosedCodeFence .. => true
  | _ => false

/-- The warning about a block that has no closing fence. -/
def Block.warning (options : Options) (block : Block) : Warning :=
  .unclosedCodeFence (Assembly.locate options block.openedAt) block.fence.marker

@[simp]
theorem Block.isUnclosedCodeFence_warning (options : Options) (block : Block) :
    (block.warning options).isUnclosedCodeFence = true := rfl

@[simp]
theorem Warning.isUnclosedCodeFence_unterminatedPage (location : Location) :
    (Warning.unterminatedPage location).isUnclosedCodeFence = false := rfl

namespace Layout

/-! ## Fragments and blocks -/

section Fragments

variable (files : FileSource) (base : Path) (grouped : Bool) (before : List Text)

/-- The fragments that the lines have settled, of all pages. -/
def settledFragments : List Fragment :=
  (closedBodies files base 1 before).flatMap (PageBody.fragments grouped) ++
    (openBody? files base 1 before).toList.flatMap (PageBody.settled grouped)

/-- The blocks that the lines have ended without a closing fence, on all pages. -/
def flushedBlocks : List Block :=
  (closedBodies files base 1 before).flatMap (PageBody.unclosedBlocks grouped) ++
    (openBody? files base 1 before).toList.flatMap (PageBody.flushedBlocks grouped)

/-- The blocks without a closing fence that a further line ends: a directive line ends the block
that waits on the open page. -/
def endedBlocks (line : Text) : List Block :=
  if Directive.isMarked line then
    (openBody? files base 1 before).toList.flatMap fun body => (body.pending? grouped).toList
  else []

variable {files base grouped before} {line : Text}

/-- One more line settles fragments of the open page alone. -/
theorem settledFragments_concat (line : Text) :
    settledFragments files base grouped (before ++ [line]) =
      settledFragments files base grouped before ++
        (openBody? files base 1 before).toList.flatMap fun body =>
          body.settledBy grouped line := by
  rcases opens_or_closes_or_not_marker files base line with h | h | h
  · -- all fragments of the page that was open are settled, the new page has none
    have hmarked := isMarked_of_directive?_eq_some (opensPage_iff.mp h)
    rw [settledFragments, settledFragments,
      closedBodies_concat_of_marker (isPageMarker_of_opensPage h), pageBodies_eq,
      openBody?_concat_of_opensPage h]
    cases openBody? files base 1 before with
    | none => simp
    | some body =>
      simp [← PageBody.settled_append_settledBy_of_isMarked hmarked]
  · -- the same without a new page
    have hmarked := isMarked_of_directive?_eq_some (closesPage_iff.mp h)
    rw [settledFragments, settledFragments,
      closedBodies_concat_of_marker (isPageMarker_of_closesPage h), pageBodies_eq,
      openBody?_concat_of_closesPage h]
    cases openBody? files base 1 before with
    | none => simp
    | some body => simp [← PageBody.settled_append_settledBy_of_isMarked hmarked]
  · -- the line belongs to the page that is open
    rw [settledFragments, settledFragments, closedBodies_concat_of_not_marker h,
      openBody?_concat_of_not_marker h]
    cases openBody? files base 1 before with
    | none => simp
    | some body => simp [PageBody.settled_concat]

/-- One more line flushes the blocks that it ends. -/
theorem flushedBlocks_concat (line : Text) :
    flushedBlocks files base grouped (before ++ [line]) =
      flushedBlocks files base grouped before ++ endedBlocks files base grouped before line := by
  rw [flushedBlocks, flushedBlocks, endedBlocks]
  -- a page marker closes the page with the block that waits, any other directive just the run
  rcases opens_or_closes_or_not_marker files base line with h | h | h
  · have hmarked := isMarked_of_directive?_eq_some (opensPage_iff.mp h)
    rw [closedBodies_concat_of_marker (isPageMarker_of_opensPage h), pageBodies_eq,
      openBody?_concat_of_opensPage h]
    cases openBody? files base 1 before with
    | none => simp
    | some body => simp [hmarked, PageBody.unclosedBlocks_eq]
  · have hmarked := isMarked_of_directive?_eq_some (closesPage_iff.mp h)
    rw [closedBodies_concat_of_marker (isPageMarker_of_closesPage h), pageBodies_eq,
      openBody?_concat_of_closesPage h]
    cases openBody? files base 1 before with
    | none => simp
    | some body => simp [hmarked, PageBody.unclosedBlocks_eq]
  · rw [closedBodies_concat_of_not_marker h, openBody?_concat_of_not_marker h]
    cases openBody? files base 1 before with
    | none => simp
    | some body =>
      -- a command ends the run that the block stands in, text does not
      cases hmarked : Directive.isMarked line with
      | true => simp [PageBody.flushedBlocks_concat_of_isMarked hmarked, PageBody.unclosedBlocks_eq]
      | false => simp [PageBody.flushedBlocks_concat_of_not_isMarked hmarked]

end Fragments

/-! ## Warnings -/

section Warnings

variable (setting : Setting)

/-- The warning about the place of a line with the given number where the given page is open. -/
def placementWarning? (page : Option PageBody) (number : Nat) (line : Text) : Option Warning :=
  match page with
  | none =>
    if Directive.isMarked line || Text.allBlank line then none
    else some (.contentOutsidePage (Assembly.locate setting.options number))
  | some body =>
    if opensPage setting.files setting.base line then
      some (.nestedStartPage (Assembly.locate setting.options number) body.openedAt)
    else none

/-- The warnings about the place of each line, where other lines come before. -/
def placementWarnings (before : List Text) : List Text → List Warning
  | [] => []
  | line :: rest =>
    (placementWarning? setting (openBody? setting.files setting.base 1 before)
      (1 + before.length) line).toList ++ placementWarnings (before ++ [line]) rest

/-- The warnings that a line brings: about the block that it ends, then about its place. -/
def lineWarnings (before : List Text) (line : Text) : List Warning :=
  (endedBlocks setting.files setting.base setting.options.groupCodeFences before line).map
    (Block.warning setting.options) ++
  (placementWarning? setting (openBody? setting.files setting.base 1 before) (1 + before.length)
    line).toList

/-- The warnings that lines bring one after another, where other lines come before. -/
def linesWarnings (before : List Text) : List Text → List Warning
  | [] => []
  | line :: rest => lineWarnings setting before line ++ linesWarnings (before ++ [line]) rest

variable {setting}

/-- A line is judged by the lines before it. -/
theorem placementWarnings_concat (before lines : List Text) (line : Text) :
    placementWarnings setting before (lines ++ [line]) =
      placementWarnings setting before lines ++
        (placementWarning? setting (openBody? setting.files setting.base 1 (before ++ lines))
          (1 + (before ++ lines).length) line).toList := by
  induction lines generalizing before with
  | nil => simp [placementWarnings]
  | cons first rest ih => simp [placementWarnings, ih]

theorem linesWarnings_concat (before lines : List Text) (line : Text) :
    linesWarnings setting before (lines ++ [line]) =
      linesWarnings setting before lines ++ lineWarnings setting (before ++ lines) line := by
  induction lines generalizing before with
  | nil => simp [linesWarnings]
  | cons first rest ih => simp [linesWarnings, ih]

/-- A warning about the place of a line names this line, which lies outside of any page or opens a
page inside another. -/
theorem eq_of_placementWarning? {page : Option PageBody} {number : Nat} {line : Text}
    {warning : Warning} (h : placementWarning? setting page number line = some warning) :
    warning = .contentOutsidePage (Assembly.locate setting.options number) ∨
      ∃ openedAt, warning = .nestedStartPage (Assembly.locate setting.options number) openedAt := by
  cases page with
  | none =>
    rw [placementWarning?, Option.ite_none_left_eq_some] at h
    exact .inl (Option.some.inj h.2).symm
  | some body =>
    rw [placementWarning?, Option.ite_none_right_eq_some] at h
    exact .inr ⟨body.openedAt, (Option.some.inj h.2).symm⟩

/-- The place of a line has nothing to do with blocks. -/
theorem isUnclosedCodeFence_of_placementWarning? {page : Option PageBody} {number : Nat}
    {line : Text} {warning : Warning}
    (h : placementWarning? setting page number line = some warning) :
    warning.isUnclosedCodeFence = false := by
  rcases eq_of_placementWarning? h with rfl | ⟨openedAt, rfl⟩
  · rfl
  · rfl

/-- The warnings that a line brings are told apart by their kind. -/
theorem filter_lineWarnings (setting : Setting) (before : List Text) (line : Text) :
    (lineWarnings setting before line).filter Warning.isUnclosedCodeFence =
      (endedBlocks setting.files setting.base setting.options.groupCodeFences before line).map
        (Block.warning setting.options) ∧
    (lineWarnings setting before line).filter (!Warning.isUnclosedCodeFence ·) =
      (placementWarning? setting (openBody? setting.files setting.base 1 before)
        (1 + before.length) line).toList := by
  simp only [lineWarnings, List.filter_append]
  cases hplace : placementWarning? setting (openBody? setting.files setting.base 1 before)
      (1 + before.length) line with
  | none => simp
  | some warning => simp [isUnclosedCodeFence_of_placementWarning? hplace]

/-- The warnings about blocks name exactly the blocks that have been ended without a closing
fence. -/
theorem filter_unclosed_linesWarnings (setting : Setting) (lines : List Text) :
    (linesWarnings setting [] lines).filter Warning.isUnclosedCodeFence =
      (flushedBlocks setting.files setting.base setting.options.groupCodeFences lines).map
        (Block.warning setting.options) := by
  induction lines using List.reverseRecOn with
  -- a line ends blocks of the lines before it, so the induction adds the last line
  | nil => rfl
  | append_singleton before line ih =>
    rw [linesWarnings_concat, List.filter_append, ih, List.nil_append,
      (filter_lineWarnings setting before line).1, flushedBlocks_concat, List.map_append]

/-- All other warnings are about the place of a line. -/
theorem filter_placement_linesWarnings (setting : Setting) (lines : List Text) :
    (linesWarnings setting [] lines).filter (!Warning.isUnclosedCodeFence ·) =
      placementWarnings setting [] lines := by
  induction lines using List.reverseRecOn with
  | nil => rfl
  | append_singleton before line ih =>
    rw [linesWarnings_concat, List.filter_append, ih, List.nil_append,
      (filter_lineWarnings setting before line).2, placementWarnings_concat, List.nil_append]

end Warnings

end Layout

end TutorialPages
