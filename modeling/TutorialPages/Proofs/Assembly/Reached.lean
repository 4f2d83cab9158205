import TutorialPages.Proofs.Assembly.OpenPage
import TutorialPages.Proofs.Assembly.Passable

/-!
# What a run over lines reaches

A run takes all lines exactly when they are passable, and the assembly that it reaches is determined
by the lines: the pages they close, the state of the page they leave open, and the warnings. The
proof follows the lines from the front; `feed_reached_eq_ok` is its single step.
-/

namespace TutorialPages

open Layout Traced

/-- The assembly that the lines lead to. -/
def Assembly.reached (setting : Setting) (lines : List Text) : Assembly where
  current := (openBody? setting.files setting.base 1 lines).map (PageBody.openPage setting)
  pages := (closedBodies setting.files setting.base 1 lines).map (PageBody.page setting)
  warnings := linesWarnings setting [] lines

variable {setting : Setting} {before : List Text} {line : Text}

/-! ## What passes -/

/-- Outside of any page only `START PAGE` and text pass. -/
theorem passes_outside_iff (hopen : openBody? setting.files setting.base 1 before = none) :
    Passes setting before line ↔
      (Directive.isMarked line = true → opensPage setting.files setting.base line = true) := by
  have hleaves : leavesOpen setting.files setting.base before = false := by
    simp [leavesOpen_eq 1, hopen]
  constructor
  · rintro ⟨hreadable, henclosed, -, -, -⟩ hmarked
    rw [hleaves] at henclosed
    obtain ⟨directive, hdirective⟩ := hreadable hmarked
    -- of the four kinds, three would have to stand on a page
    cases directive with
    | startPage => exact opensPage_iff.mpr hdirective
    | endPage => cases henclosed (.inl (closesPage_iff.mpr hdirective))
    | pre command => cases henclosed (.inr (by simp [isCommand, hdirective, Directive.method?]))
    | post check => cases henclosed (.inr (by simp [isCommand, hdirective, Directive.method?]))
  · intro hopens
    refine ⟨fun hmarked => ⟨_, opensPage_iff.mp (hopens hmarked)⟩, ?_, ?_, ?_, ?_⟩
    · -- a line that states a directive is marked, so it opens a page
      rintro (hcloses | hcommand)
      · have hmarked := isMarked_of_directive?_eq_some (closesPage_iff.mp hcloses)
        rw [opensPage_of_closesPage hcloses] at hopens
        cases hopens hmarked
      · rw [isCommand] at hcommand
        cases hdirective : directive? setting.files setting.base line with
        | none => simp [hdirective] at hcommand
        | some directive =>
          have hstart := opensPage_iff.mp (hopens (isMarked_of_directive?_eq_some hdirective))
          simp [hstart, Directive.method?] at hcommand
    all_goals
      -- the other conditions are about an open page, and there is none
      intro body hbody
      rw [hopen] at hbody
      cases hbody

/-- What is asked of a line on an open page. -/
theorem passes_inside_iff {body : PageBody}
    (hopen : openBody? setting.files setting.base 1 before = some body) :
    Passes setting before line ↔
      (Directive.isMarked line = true →
        ∃ directive, directive? setting.files setting.base line = some directive) ∧
      (Directive.isMarked line = false → body.postChecks setting.files setting.base = []) ∧
      (∀ fragment ∈ body.settledBy setting.options.groupCodeFences line,
        fragment.Accepted setting) ∧
      (isPageMarker setting.files setting.base line = true →
        (body.page setting).isEmpty = false) := by
  constructor
  · intro h
    rcases h with ⟨hreadable, -, hfirst, haccepted, hinhabited⟩
    exact ⟨hreadable, hfirst body hopen, haccepted body hopen, hinhabited body hopen⟩
  · intro h
    rcases h with ⟨hreadable, hfirst, haccepted, hinhabited⟩
    refine ⟨hreadable, fun _ => ?_, ?_, ?_, ?_⟩
    -- the page is open, so the line may be a command or a page marker
    · simp [leavesOpen_eq 1, hopen]
    all_goals
      intro other hother
      rw [hopen] at hother
      cases hother
      assumption

/-! ## One step -/

namespace Assembly

open PageBody

variable {next : Assembly}

section Outside

variable (hopen : openBody? setting.files setting.base 1 before = none)

include hopen

theorem current_reached_outside : (reached setting before).current = none := by
  rw [reached, hopen, Option.map_none]

/-- `START PAGE` opens a page. -/
theorem reached_startPage_outside (hopens : opensPage setting.files setting.base line = true) :
    reached setting (before ++ [line]) =
      { reached setting before with current := some (.start (1 + before.length)) } := by
  have hmarked := isMarked_of_directive?_eq_some (opensPage_iff.mp hopens)
  simp [reached, openBody?_concat_of_opensPage hopens, openPage_start,
    closedBodies_concat_of_marker (isPageMarker_of_opensPage hopens), pageBodies_eq, hopen,
    linesWarnings_concat, lineWarnings, endedBlocks, placementWarning?, hmarked]

/-- Text outside of any page is left out. -/
theorem reached_text_outside (hmarked : Directive.isMarked line = false) :
    reached setting (before ++ [line]) =
      { reached setting before with
        warnings := (reached setting before).warnings ++
          (if Text.allBlank line then []
          else [.contentOutsidePage (locate setting.options (1 + before.length))]) } := by
  -- a line of text closes no page, so only what is warned about can change
  have hmarker := isPageMarker_of_not_isMarked setting.files setting.base hmarked
  cases hblank : Text.allBlank line with
  | true =>
    simp [reached, openBody?_concat_of_not_marker hmarker, hopen,
      closedBodies_concat_of_not_marker hmarker, linesWarnings_concat, lineWarnings, endedBlocks,
      placementWarning?, hmarked, hblank]
  | false =>
    simp [reached, openBody?_concat_of_not_marker hmarker, hopen,
      closedBodies_concat_of_not_marker hmarker, linesWarnings_concat, lineWarnings, endedBlocks,
      placementWarning?, hmarked, hblank]

theorem feed_outside_eq_ok :
    (feed setting (1 + before.length) line (reached setting before)).outcome = .ok next ↔
      Passes setting before line ∧ next = reached setting (before ++ [line]) := by
  have hcurrent := current_reached_outside hopen
  rw [passes_outside_iff hopen]
  cases hmarked : Directive.isMarked line with
  | true =>
    -- of the directives `START PAGE` alone can be carried out here
    rw [feed_outside_directive hcurrent hmarked, feedDirective_eq_ok]
    simp only [apply_outside_eq_ok hcurrent, ← directive?_eq_some_iff hmarked, true_implies]
    constructor
    · intro h
      rcases h with ⟨directive, hdirective, rfl, rfl⟩
      have hopens := opensPage_iff.mpr hdirective
      exact ⟨hopens, (reached_startPage_outside hopen hopens).symm⟩
    · intro h
      rcases h with ⟨hopens, rfl⟩
      exact ⟨_, opensPage_iff.mp hopens, rfl, reached_startPage_outside hopen hopens⟩
  | false =>
    -- every line of text passes
    rw [feed_outside_text hcurrent hmarked, skip_eq_ok, reached_text_outside hopen hmarked]
    simp

end Outside

section Inside

variable {body : PageBody} (hopen : openBody? setting.files setting.base 1 before = some body)

include hopen

theorem current_reached_inside :
    (reached setting before).current = some (body.openPage setting) := by
  rw [reached, hopen, Option.map_some]

/-- Text is taken by the open page. -/
theorem reached_text_inside (hmarked : Directive.isMarked line = false) :
    reached setting (before ++ [line]) =
      { reached setting before with
        current := some ((body.concat line).openPage setting) } := by
  have hmarker := isPageMarker_of_not_isMarked setting.files setting.base hmarked
  -- warnings come from ended blocks and places, and a line of text on a page brings neither
  have hopens := opensPage_of_not_marker hmarker
  simp [reached, openBody?_concat_of_not_marker hmarker, hopen,
    closedBodies_concat_of_not_marker hmarker, linesWarnings_concat, lineWarnings, endedBlocks,
    placementWarning?, hmarked, hopens]

/-- A command is added to the open page. -/
theorem reached_command (hmarked : Directive.isMarked line = true)
    (hmarker : isPageMarker setting.files setting.base line = false) :
    reached setting (before ++ [line]) =
      { reached setting before with
        current := some ((body.concat line).openPage setting)
        warnings := (reached setting before).warnings ++
          (body.pending? setting.options.groupCodeFences).toList.map
            (Block.warning setting.options) } := by
  -- a directive ends the block that waits, so its warning comes with the command
  have hopens := opensPage_of_not_marker hmarker
  simp [reached, openBody?_concat_of_not_marker hmarker, hopen,
    closedBodies_concat_of_not_marker hmarker, linesWarnings_concat, lineWarnings, endedBlocks,
    placementWarning?, hmarked, hopens]

/-- `END PAGE` closes the open page. -/
theorem reached_endPage (hcloses : closesPage setting.files setting.base line = true) :
    reached setting (before ++ [line]) =
      { current := none
        pages := (reached setting before).pages ++ [body.page setting]
        warnings := (reached setting before).warnings ++
          (body.pending? setting.options.groupCodeFences).toList.map
            (Block.warning setting.options) } := by
  have hmarked := isMarked_of_directive?_eq_some (closesPage_iff.mp hcloses)
  simp [reached, openBody?_concat_of_closesPage hcloses, hopen,
    closedBodies_concat_of_marker (isPageMarker_of_closesPage hcloses), pageBodies_eq,
    linesWarnings_concat, lineWarnings, endedBlocks, placementWarning?, hmarked,
    opensPage_of_closesPage hcloses]

/-- `START PAGE` closes the open page and opens the next. -/
theorem reached_startPage_inside (hopens : opensPage setting.files setting.base line = true) :
    reached setting (before ++ [line]) =
      { current := some (.start (1 + before.length))
        pages := (reached setting before).pages ++ [body.page setting]
        warnings := (reached setting before).warnings ++
          (body.pending? setting.options.groupCodeFences).toList.map
            (Block.warning setting.options) ++
          [.nestedStartPage (locate setting.options (1 + before.length)) body.openedAt] } := by
  have hmarked := isMarked_of_directive?_eq_some (opensPage_iff.mp hopens)
  simp [reached, openBody?_concat_of_opensPage hopens, hopen, openPage_start,
    closedBodies_concat_of_marker (isPageMarker_of_opensPage hopens), pageBodies_eq,
    linesWarnings_concat, lineWarnings, endedBlocks, placementWarning?, hmarked, hopens]

/-- What a directive does to the open page once the block that waited has been ended. -/
theorem apply_inside_eq_ok {directive : Directive}
    (hdirective : directive? setting.files setting.base line = some directive) :
    (apply setting (1 + before.length) directive
        { reached setting before with
          current := some ⟨⟨body.openedAt, body.page setting⟩, .start, none⟩
          warnings := (reached setting before).warnings ++
            (body.pending? setting.options.groupCodeFences).toList.map
              (Block.warning setting.options) }).outcome = .ok next ↔
      (isPageMarker setting.files setting.base line = true → (body.page setting).isEmpty = false) ∧
        next = reached setting (before ++ [line]) := by
  have hmarked := isMarked_of_directive?_eq_some hdirective
  rcases opens_or_closes_or_not_marker setting.files setting.base line with
    hopens | hcloses | hcommand
  -- the directive is known from what its line does to pages
  · obtain rfl : directive = .startPage := by
      simpa [hdirective] using opensPage_iff.mp hopens
    rw [apply_startPage_eq_ok rfl rfl, reached_startPage_inside hopen hopens]
    simp [isPageMarker_of_opensPage hopens]
  · obtain rfl : directive = .endPage := by
      simpa [hdirective] using closesPage_iff.mp hcloses
    rw [apply_endPage_eq_ok rfl rfl, reached_endPage hopen hcloses]
    simp [isPageMarker_of_closesPage hcloses]
  · rw [apply_command_eq_ok hdirective hcommand rfl, reached_command hopen hmarked hcommand]
    simp [hcommand]

theorem feed_inside_eq_ok (hfirst : body.TextFirst setting.files setting.base) :
    (feed setting (1 + before.length) line (reached setting before)).outcome = .ok next ↔
      Passes setting before line ∧ next = reached setting (before ++ [line]) := by
  have hcurrent := current_reached_inside hopen
  rw [passes_inside_iff hopen]
  cases hmarked : Directive.isMarked line with
  | false =>
    -- text is numbered from the line that opened its page
    have hmarker := isPageMarker_of_not_isMarked setting.files setting.base hmarked
    rw [← (openBody?_number hopen).2, feed_openPage_text_eq_ok hcurrent hfirst hmarked,
      reached_text_inside hopen hmarked]
    simp [hmarker, and_assoc]
  | true =>
    -- first the block that waits is ended, then the directive is carried out
    rw [feed_openPage_directive_eq_ok hcurrent hfirst hmarked]
    constructor
    · intro h
      rcases h with ⟨haccepted, directive, hdirective, happly⟩
      obtain ⟨hinhabited, rfl⟩ := (apply_inside_eq_ok hopen hdirective).mp happly
      exact ⟨⟨fun _ => ⟨directive, hdirective⟩, by simp, haccepted, hinhabited⟩, rfl⟩
    · intro h
      rcases h with ⟨⟨hreadable, -, haccepted, hinhabited⟩, rfl⟩
      obtain ⟨directive, hdirective⟩ := hreadable rfl
      exact ⟨haccepted, directive, hdirective,
        (apply_inside_eq_ok hopen hdirective).mpr ⟨hinhabited, rfl⟩⟩

end Inside

/-- Behind passable lines a line is taken when it passes. -/
theorem feed_reached_eq_ok (hpassable : Passable setting before) :
    (feed setting (1 + before.length) line (reached setting before)).outcome = .ok next ↔
      Passes setting before line ∧ next = reached setting (before ++ [line]) := by
  -- the two states of an assembly, by the page that the lines leave open
  cases hopen : openBody? setting.files setting.base 1 before with
  | none => exact feed_outside_eq_ok hopen
  | some body => exact feed_inside_eq_ok hopen (hpassable.textFirst_of_openBody? hopen)

/-! ## The whole run -/

/-- A run takes exactly the passable lines, and reaches what they lead to. -/
theorem feedAll_start_eq_ok {lines : List Text} :
    (feedAll setting 1 lines start).outcome = .ok next ↔
      Passable setting lines ∧ next = reached setting lines := by
  -- the lines are taken from the end, since a line is judged by those before it
  induction lines using List.reverseRecOn generalizing next with
  | nil =>
    have hreached : reached setting [] = start := rfl
    rw [feedAll, outcome_pure_eq_ok, hreached]
    simp [passable_nil]
  | append_singleton before line ih =>
    rw [feedAll_concat_eq_ok, passable_concat]
    simp only [ih]
    constructor
    -- from the state before, the last line decides alone
    · intro h
      rcases h with ⟨middle, ⟨hpassable, rfl⟩, hline⟩
      obtain ⟨hpasses, rfl⟩ := (feed_reached_eq_ok hpassable).mp hline
      exact ⟨⟨hpassable, hpasses⟩, rfl⟩
    · intro h
      rcases h with ⟨⟨hpassable, hpasses⟩, rfl⟩
      exact ⟨_, ⟨hpassable, rfl⟩, (feed_reached_eq_ok hpassable).mpr ⟨hpasses, rfl⟩⟩

end Assembly

end TutorialPages
