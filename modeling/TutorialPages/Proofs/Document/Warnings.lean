import Mathlib.Data.List.Nodup
import TutorialPages.Proofs.Document.Plain
import TutorialPages.Proofs.Layout.Warnings

/-!
# The warnings of a document

For each warning there is a reason among the lines, and for each reason there is one warning. Apart
from the warning about the page that the document leaves open, the warnings come in the order of
the lines.
-/

namespace TutorialPages

open Layout

/-- The warning about a page that is never closed. -/
def Warning.isUnterminatedPage : Warning → Bool
  | .unterminatedPage _ => true
  | _ => false

/-- There is a reason for the warning among the lines of a document. -/
inductive Warranted (setting : Setting) (lines : List Text) : Warning → Prop where
  /-- Text that is not blank stands where no page is open. -/
  | contentOutsidePage {before after : List Text} {line : Text}
    (split : lines = before ++ line :: after) (text : Directive.isMarked line = false)
    (visible : Text.allBlank line = false)
    (outside : leavesOpen setting.files setting.base before = false) :
    Warranted setting lines
      (.contentOutsidePage ⟨setting.options.fileName, before.length + 1⟩)
  /-- `START PAGE` stands where a page is open, which the `START PAGE` before it has opened. -/
  | nestedStartPage {before after : List Text} {line earlier : Text} {openedAt : Nat}
    (split : lines = before ++ line :: after)
    (opens : opensPage setting.files setting.base line = true)
    (inside : leavesOpen setting.files setting.base before = true)
    (previous : LastStart setting.files setting.base before openedAt earlier) :
    Warranted setting lines
      (.nestedStartPage ⟨setting.options.fileName, before.length + 1⟩ openedAt)
  /-- Blocks are grouped, and a block of a page has no closing fence. -/
  | unclosedCodeFence {body : PageBody} {block : Block}
    (grouped : setting.options.groupCodeFences = true)
    (page : body ∈ pageBodies setting.files setting.base 1 lines)
    (unclosed : block ∈ body.unclosedBlocks true) :
    Warranted setting lines
      (.unclosedCodeFence ⟨setting.options.fileName, block.openedAt⟩ block.fence.marker)
  /-- The document ends on the page that its last `START PAGE` has opened. -/
  | unterminatedPage {number : Nat} {line : Text}
    (inside : leavesOpen setting.files setting.base lines = true)
    (last : LastStart setting.files setting.base lines number line) :
    Warranted setting lines (.unterminatedPage ⟨setting.options.fileName, number⟩)

/-- The warnings are those that lines give reason for, each of them once and in order. -/
structure WarnsExactly (setting : Setting) (lines : List Text) (warnings : List Warning) :
    Prop where
  mem_iff : ∀ warning, warning ∈ warnings ↔ Warranted setting lines warning
  nodup : warnings.Nodup
  /-- There is one warning about a page that is never closed, or there is none. -/
  unterminated : warnings.countP Warning.isUnterminatedPage =
    if leavesOpen setting.files setting.base lines then 1 else 0
  increasing : (warnings.filter (!Warning.isUnterminatedPage ·)).Pairwise
    fun earlier later => earlier.location.line < later.location.line
  located : ∀ warning ∈ warnings, 1 ≤ warning.location.line ∧
    warning.location.line ≤ lines.length ∧ warning.location.file = setting.options.fileName

variable {setting : Setting} {lines before : List Text} {line : Text} {warning : Warning}

/-! ## Reasons for warnings -/

/-- The page that is left open has been opened on the last `START PAGE`. -/
theorem openedAt_iff {number : Nat} :
    (∃ body, openBody? setting.files setting.base 1 before = some body ∧ body.openedAt = number) ↔
      leavesOpen setting.files setting.base before = true ∧
        ∃ start, LastStart setting.files setting.base before number start := by
  rw [leavesOpen_eq 1, Option.isSome_iff_exists]
  constructor
  · rintro ⟨body, hopen, rfl⟩
    exact ⟨⟨body, hopen⟩, lastStart_of_openBody? hopen⟩
  · rintro ⟨⟨body, hopen⟩, start, hstart⟩
    -- there is one last `START PAGE`, so it is the line that opened the page
    obtain ⟨other, hother⟩ := lastStart_of_openBody? hopen
    exact ⟨body, hopen, hother.unique hstart⟩

theorem placementWarning?_outside {number : Nat} :
    placementWarning? setting none number line = some warning ↔
      Directive.isMarked line = false ∧ Text.allBlank line = false ∧
        warning = .contentOutsidePage (Assembly.locate setting.options number) := by
  cases hmarked : Directive.isMarked line with
  | true => simp [placementWarning?, hmarked]
  | false =>
    cases hblank : Text.allBlank line with
    | true => simp [placementWarning?, hblank]
    | false => simpa [placementWarning?, hmarked, hblank] using eq_comm

theorem placementWarning?_inside {number : Nat} {body : PageBody} :
    placementWarning? setting (some body) number line = some warning ↔
      opensPage setting.files setting.base line = true ∧
        warning = .nestedStartPage (Assembly.locate setting.options number) body.openedAt := by
  cases hopens : opensPage setting.files setting.base line with
  | true => simpa [placementWarning?, hopens] using eq_comm
  | false => simp [placementWarning?, hopens]

/-- A warning is about a block, about the place of a line, or about the end. -/
theorem mem_ofLines_cases :
    warning ∈ (Compiled.ofLines setting lines).warnings ↔
      (∃ body ∈ pageBodies setting.files setting.base 1 lines,
        ∃ block ∈ body.unclosedBlocks setting.options.groupCodeFences,
          block.warning setting.options = warning) ∨
      warning ∈ placementWarnings setting [] lines ∨
      ∃ body, openBody? setting.files setting.base 1 lines = some body ∧
        Warning.unterminatedPage (Assembly.locate setting.options body.openedAt) = warning := by
  have hparts : warning ∈ (Compiled.ofLines setting lines).warnings ↔
      warning ∈ (Compiled.ofLines setting lines).warnings.filter Warning.isUnclosedCodeFence ∨
      warning ∈ (Compiled.ofLines setting lines).warnings.filter
        (!Warning.isUnclosedCodeFence ·) := by
    cases hkind : warning.isUnclosedCodeFence <;> simp [hkind]
  rw [hparts, filter_unclosed_ofLines, filter_placement_ofLines]
  simp only [List.mem_map, List.mem_flatMap, List.mem_append, Option.mem_toList]
  refine or_congr_left ⟨?_, ?_⟩
  · rintro ⟨block, ⟨body, hbody, hblock⟩, hwarning⟩
    exact ⟨body, hbody, block, hblock, hwarning⟩
  · rintro ⟨body, hbody, block, hblock, hwarning⟩
    exact ⟨block, ⟨body, hbody, hblock⟩, hwarning⟩

theorem mem_ofLines_iff :
    warning ∈ (Compiled.ofLines setting lines).warnings ↔ Warranted setting lines warning := by
  rw [mem_ofLines_cases, mem_placementWarnings_iff]
  -- a warning about the place of a line has one of two reasons, as a page is open there or not
  constructor
  · rintro (⟨body, hbody, block, hblock, rfl⟩ | ⟨earlier, line, later, hlines, hplace⟩ |
      ⟨body, hopen, rfl⟩)
    -- without grouping there are no blocks at all
    · cases hgrouped : setting.options.groupCodeFences with
      | false =>
        rw [hgrouped, PageBody.unclosedBlocks_of_not_grouped] at hblock
        cases hblock
      | true =>
        rw [hgrouped] at hblock
        exact .unclosedCodeFence hgrouped hbody hblock
    · rw [List.nil_append, Nat.add_comm 1] at hplace
      cases hopen : openBody? setting.files setting.base 1 earlier with
      | none =>
        rw [hopen] at hplace
        obtain ⟨hmarked, hblank, rfl⟩ := placementWarning?_outside.mp hplace
        have houtside : leavesOpen setting.files setting.base earlier = false := by
          rw [leavesOpen_eq 1, hopen, Option.isSome_none]
        exact .contentOutsidePage hlines hmarked hblank houtside
      | some body =>
        rw [hopen] at hplace
        obtain ⟨hopens, rfl⟩ := placementWarning?_inside.mp hplace
        obtain ⟨hinside, start, hstart⟩ := openedAt_iff.mp ⟨body, hopen, rfl⟩
        exact .nestedStartPage hlines hopens hinside hstart
    · obtain ⟨hinside, start, hstart⟩ := openedAt_iff.mp ⟨body, hopen, rfl⟩
      exact .unterminatedPage hinside hstart
  · intro h
    cases h with
    | contentOutsidePage split text visible outside =>
      refine .inr (.inl ⟨_, _, _, split, ?_⟩)
      rw [leavesOpen_eq 1, Option.isSome_eq_false_iff, Option.isNone_iff_eq_none] at outside
      rw [List.nil_append, Nat.add_comm 1, outside]
      exact placementWarning?_outside.mpr ⟨text, visible, rfl⟩
    | nestedStartPage split opens inside previous =>
      refine .inr (.inl ⟨_, _, _, split, ?_⟩)
      obtain ⟨body, hopen, rfl⟩ := openedAt_iff.mpr ⟨inside, _, previous⟩
      rw [List.nil_append, Nat.add_comm 1, hopen]
      exact placementWarning?_inside.mpr ⟨opens, rfl⟩
    | unclosedCodeFence grouped page unclosed =>
      rw [← grouped] at unclosed
      exact .inl ⟨_, page, _, unclosed, rfl⟩
    | unterminatedPage inside last =>
      obtain ⟨body, hopen, rfl⟩ := openedAt_iff.mpr ⟨inside, _, last⟩
      exact .inr (.inr ⟨body, hopen, rfl⟩)

/-! ## Order and number -/

theorem isUnterminatedPage_of_mem_linesWarnings
    (h : warning ∈ linesWarnings setting before lines) : warning.isUnterminatedPage = false := by
  induction lines generalizing before with
  | nil => cases h
  | cons line rest ih =>
    rw [linesWarnings, List.mem_append] at h
    -- a line warns about the block that it flushes, or about its own place
    rcases h with hline | hrest
    · rw [lineWarnings, List.mem_append, List.mem_map, Option.mem_toList] at hline
      rcases hline with ⟨block, -, rfl⟩ | hplace
      · rfl
      · rcases eq_of_placementWarning? hplace with rfl | ⟨openedAt, rfl⟩
        · rfl
        · rfl
    · exact ih hrest

theorem lastWarnings_of_some {body : PageBody}
    (h : openBody? setting.files setting.base 1 lines = some body) :
    lastWarnings setting lines =
      .unterminatedPage (Assembly.locate setting.options body.openedAt) ::
        (waitingBlock? setting lines).toList.map (Block.warning setting.options) := by
  simp [lastWarnings, waitingBlock?, h]

/-- The warnings other than that about the page that is left open. -/
theorem filter_warnings_ofLines (setting : Setting) (lines : List Text) :
    (Compiled.ofLines setting lines).warnings.filter (!Warning.isUnterminatedPage ·) =
      linesWarnings setting [] lines ++
        (waitingBlock? setting lines).toList.map (Block.warning setting.options) := by
  have hlines : (linesWarnings setting [] lines).filter (!Warning.isUnterminatedPage ·) =
      linesWarnings setting [] lines := by
    refine List.filter_eq_self.mpr fun warning hwarning => ?_
    rw [isUnterminatedPage_of_mem_linesWarnings hwarning, Bool.not_false]
  rw [Compiled.ofLines, List.filter_append, hlines]
  congr 1
  cases hopen : openBody? setting.files setting.base 1 lines with
  | none => simp [lastWarnings, waitingBlock?, hopen]
  | some body =>
    rw [lastWarnings_of_some hopen]
    cases waitingBlock? setting lines <;> rfl

/-- The page that is left open is warned about once. -/
theorem filter_unterminated_ofLines (setting : Setting) (lines : List Text) :
    (Compiled.ofLines setting lines).warnings.filter Warning.isUnterminatedPage =
      (openBody? setting.files setting.base 1 lines).toList.map fun body =>
        .unterminatedPage (Assembly.locate setting.options body.openedAt) := by
  have hlines : (linesWarnings setting [] lines).filter Warning.isUnterminatedPage = [] := by
    refine List.filter_eq_nil_iff.mpr fun warning hwarning => ?_
    rw [isUnterminatedPage_of_mem_linesWarnings hwarning]
    exact Bool.false_ne_true
  rw [Compiled.ofLines, List.filter_append, hlines]
  cases hopen : openBody? setting.files setting.base 1 lines with
  | none => simp [lastWarnings, hopen]
  | some body =>
    rw [lastWarnings_of_some hopen]
    cases waitingBlock? setting lines <;> rfl

theorem countP_warnings_ofLines (setting : Setting) (lines : List Text) :
    (Compiled.ofLines setting lines).warnings.countP Warning.isUnterminatedPage =
      if leavesOpen setting.files setting.base lines then 1 else 0 := by
  rw [List.countP_eq_length_filter, filter_unterminated_ofLines, leavesOpen_eq 1]
  cases openBody? setting.files setting.base 1 lines <;> rfl

/-- The block that waits at the end began behind all lines that have been reported about. -/
theorem warnings_ofLines_between (setting : Setting) (lines : List Text) :
    OrderedBetween 0 lines.length
      ((Compiled.ofLines setting lines).warnings.filter (!Warning.isUnterminatedPage ·)) := by
  rw [filter_warnings_ofLines]
  exact (linesWarnings_between setting lines).append (waitingWarnings_between setting lines)
    (Nat.zero_le _) (reportedUpTo_le setting lines)

/-- No warning is given twice: of one kind there is one at most, and the others increase. -/
theorem nodup_warnings_ofLines (setting : Setting) (lines : List Text) :
    (Compiled.ofLines setting lines).warnings.Nodup := by
  refine List.nodup_iff_count_le_one.mpr fun warning => ?_
  -- the warning about the last page stands apart: it may name a line that comes before others
  cases hkind : warning.isUnterminatedPage with
  | true =>
    calc (Compiled.ofLines setting lines).warnings.count warning
        ≤ (Compiled.ofLines setting lines).warnings.countP Warning.isUnterminatedPage :=
          List.countP_mono_left fun other _ hother => by rwa [eq_of_beq hother]
      _ ≤ 1 := by
          rw [countP_warnings_ofLines]
          split
          · exact Nat.le_refl 1
          · exact Nat.zero_le 1
  | false =>
    have hnodup : ((Compiled.ofLines setting lines).warnings.filter
        (!Warning.isUnterminatedPage ·)).Nodup := by
      refine (warnings_ofLines_between setting lines).increasing.imp ?_
      rintro earlier _ hlt rfl
      exact Nat.lt_irrefl _ hlt
    have hkept : (!warning.isUnterminatedPage) = true := by rw [hkind, Bool.not_false]
    calc (Compiled.ofLines setting lines).warnings.count warning
        = ((Compiled.ofLines setting lines).warnings.filter
            (!Warning.isUnterminatedPage ·)).count warning :=
          (List.count_filter (p := (!Warning.isUnterminatedPage ·)) hkept).symm
      _ ≤ 1 := List.nodup_iff_count_le_one.mp hnodup warning

theorem located_of_mem_ofLines (h : warning ∈ (Compiled.ofLines setting lines).warnings) :
    1 ≤ warning.location.line ∧ warning.location.line ≤ lines.length ∧
      warning.location.file = setting.options.fileName := by
  have hfile : warning.location.file = setting.options.fileName := by
    cases mem_ofLines_iff.mp h <;> rfl
  suffices hplace : 1 ≤ warning.location.line ∧ warning.location.line ≤ lines.length from
    ⟨hplace.1, hplace.2, hfile⟩
  cases hkind : warning.isUnterminatedPage with
  | true =>
    -- the last page was opened by a line of the document
    cases mem_ofLines_iff.mp h with
    | unterminatedPage inside last => exact last.bounds
    | contentOutsidePage | nestedStartPage | unclosedCodeFence => cases hkind
  | false =>
    have hmem : warning ∈ (Compiled.ofLines setting lines).warnings.filter
        (!Warning.isUnterminatedPage ·) := by
      rw [List.mem_filter, hkind]
      exact ⟨h, rfl⟩
    exact (warnings_ofLines_between setting lines).between warning hmem

/-! ## All warnings -/

/-- A document that compiles gives the warnings that its lines give reason for, each of them once,
and in the order of the lines but for the one about the page that it leaves open. -/
theorem compile_warnings {setting : Setting} {content : Text} {compiled : Compiled}
    (h : (compile setting content).outcome = .ok compiled) :
    WarnsExactly setting (Text.lines content) compiled.warnings := by
  obtain ⟨-, rfl⟩ := run_eq_ok_iff.mp h
  exact {
    mem_iff _ := mem_ofLines_iff
    nodup := nodup_warnings_ofLines setting _
    unterminated := countP_warnings_ofLines setting _
    increasing := (warnings_ofLines_between setting _).increasing
    located _ := located_of_mem_ofLines }

theorem compile_warnings_verbatim :
    WarnsExactly (.verbatim { groupCodeFences := true })
      ["Hi".toList, "-> START PAGE".toList, "~~~".toList, "-> START PAGE".toList, "~~~".toList]
      [.contentOutsidePage ⟨none, 1⟩, .unclosedCodeFence ⟨none, 3⟩ '~',
        .nestedStartPage ⟨none, 4⟩ 2, .unterminatedPage ⟨none, 4⟩,
        .unclosedCodeFence ⟨none, 5⟩ '~'] := by
  have hcompiled : (compile (.verbatim { groupCodeFences := true })
      "Hi\n-> START PAGE\n~~~\n-> START PAGE\n~~~".toList).outcome =
        .ok ⟨⟨[⟨[], "~~~".toList, [], none⟩, ⟨[], "~~~".toList, [], none⟩]⟩,
          [.contentOutsidePage ⟨none, 1⟩, .unclosedCodeFence ⟨none, 3⟩ '~',
            .nestedStartPage ⟨none, 4⟩ 2, .unterminatedPage ⟨none, 4⟩,
            .unclosedCodeFence ⟨none, 5⟩ '~']⟩ := by
    rfl
  exact compile_warnings hcompiled

end TutorialPages
