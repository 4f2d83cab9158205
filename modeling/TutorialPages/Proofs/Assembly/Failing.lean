import TutorialPages.Proofs.Assembly.Refusal
import TutorialPages.Proofs.Assembly.Sound

/-!
# Where a run fails

A run fails at the first line that is refused, or at the end of the lines when all of them have been
taken. What comes behind the line that is refused does not matter, and at the end it is the open
page that is refused, on the line of its `START PAGE`.
-/

namespace TutorialPages

open Layout Traced

namespace Assembly

variable {setting : Setting} {number : Nat} {lines : List Text} {assembly : Assembly}
  {failure : Failure}

/-! ## The two kinds of failures -/

/-- The lines before are taken, and the line that the failure names is refused. -/
def FailsOnLine (setting : Setting) (lines : List Text) (failure : Failure) : Prop :=
  ∃ before line after middle problem, lines = before ++ line :: after ∧
    (feedAll setting 1 before start).outcome = .ok middle ∧
    (feed setting (1 + before.length) line middle).outcome = .error problem ∧
    failure = failureAt setting (1 + before.length) line problem

/-- All lines are taken, and the page that is open then is refused. -/
def FailsAtEnd (setting : Setting) (lines : List Text) (failure : Failure) : Prop :=
  ∃ last page problem, (feedAll setting 1 lines start).outcome = .ok last ∧
    last.current = some page ∧ (closeLast setting page last).outcome = .error problem ∧
    failure = failureAt setting page.draft.openedAt
      (lines[page.draft.openedAt - 1]?.getD []) problem

/-- A run over lines fails at the first that is refused. -/
theorem feedAll_eq_error :
    (feedAll setting number lines assembly).outcome = .error failure ↔
      ∃ before line after middle problem, lines = before ++ line :: after ∧
        (feedAll setting number before assembly).outcome = .ok middle ∧
        (feed setting (number + before.length) line middle).outcome = .error problem ∧
        failure = failureAt setting (number + before.length) line problem := by
  constructor
  · intro h
    induction lines generalizing number assembly with
    | nil => cases h
    | cons first rest ih =>
      -- the first line is refused, or it is taken and the refused line lies in the rest
      rcases outcome_bind_eq_error.mp h with hfirst | ⟨next, hnext, hrest⟩
      · obtain ⟨problem, hproblem, rfl⟩ := outcome_mapError_eq_error.mp hfirst
        exact ⟨[], first, rest, assembly, problem, rfl, rfl, hproblem, rfl⟩
      · obtain ⟨before, line, after, middle, problem, rfl, htaken, hproblem, rfl⟩ := ih hrest
        have hplace : number + (first :: before).length = number + 1 + before.length := by
          rw [List.length_cons]
          omega
        refine ⟨first :: before, line, after, middle, problem, rfl, ?_, ?_, ?_⟩
        · rw [feedAll, outcome_bind_of_ok hnext]
          exact htaken
        · rw [hplace]
          exact hproblem
        · rw [hplace]
  · rintro ⟨before, line, after, middle, problem, rfl, htaken, hproblem, rfl⟩
    -- once a line is refused, the lines behind it are not looked at
    rw [feedAll_append, outcome_bind_of_ok htaken, feedAll]
    have hline := outcome_mapError_eq_error.mpr
      ⟨problem, hproblem, (rfl : _ = failureAt setting (number + before.length) line problem)⟩
    exact outcome_bind_eq_error.mpr (.inl hline)

theorem finish_eq_error :
    (finish setting lines assembly).outcome = .error failure ↔
      ∃ page problem, assembly.current = some page ∧
        (closeLast setting page assembly).outcome = .error problem ∧
        failure = failureAt setting page.draft.openedAt
          (lines[page.draft.openedAt - 1]?.getD []) problem := by
  cases hcurrent : assembly.current with
  | none =>
    -- where no page is open, the end of the lines cannot fail
    rw [finish_of_none hcurrent]
    constructor
    · intro h
      cases h
    · rintro ⟨page, problem, hpage, -⟩
      cases hpage
  | some page =>
    simp only [finish, hcurrent, outcome_bind_eq_error, outcome_mapError_eq_error]
    constructor
    · rintro (⟨problem, hproblem, rfl⟩ | ⟨last, -, hlast⟩)
      · exact ⟨page, problem, rfl, hproblem, rfl⟩
      -- once the page is closed, nothing is left that could fail
      · cases hlast
    · rintro ⟨other, problem, hother, hproblem, rfl⟩
      cases hother
      exact .inl ⟨problem, hproblem, rfl⟩

/-- There is no third way to fail. -/
theorem run_eq_error_iff :
    (run setting lines).outcome = .error failure ↔
      FailsOnLine setting lines failure ∨ FailsAtEnd setting lines failure := by
  rw [run, outcome_bind_eq_error, feedAll_eq_error]
  -- the lines fail on one of them; what is left is their end
  refine or_congr_right ?_
  simp only [finish_eq_error]
  constructor
  -- both sides name the same state, with its parts in another order
  · rintro ⟨last, htaken, page, problem, hcurrent, hproblem, rfl⟩
    exact ⟨last, page, problem, htaken, hcurrent, hproblem, rfl⟩
  · rintro ⟨last, page, problem, htaken, hcurrent, hproblem, rfl⟩
    exact ⟨last, htaken, page, problem, hcurrent, hproblem, rfl⟩

/-- Lines that have all been taken compile, or their open page is refused. -/
theorem run_of_feedAll_eq_ok (htaken : (feedAll setting 1 lines start).outcome = .ok assembly) :
    (∃ compiled, (run setting lines).outcome = .ok compiled) ∨
      ∃ failure, (run setting lines).outcome = .error failure ∧
        FailsAtEnd setting lines failure := by
  cases hrun : (run setting lines).outcome with
  | ok compiled => exact .inl ⟨compiled, rfl⟩
  | error failure =>
    rcases run_eq_error_iff.mp hrun with hline | hend
    · -- no line is refused
      have herror := feedAll_eq_error.mpr hline
      rw [htaken] at herror
      cases herror
    · exact .inr ⟨failure, rfl, hend⟩

/-! ## A line that is refused -/

namespace FailsOnLine

/-- A line is refused, or all are taken, but not both. -/
theorem not_failsAtEnd {failure' : Failure} (h : FailsOnLine setting lines failure) :
    ¬FailsAtEnd setting lines failure' := by
  rintro ⟨last, -, -, htaken, -⟩
  have herror := feedAll_eq_error.mpr h
  rw [htaken] at herror
  cases herror

/-- The failure names a line and gives its text. -/
theorem located (h : FailsOnLine setting lines failure) :
    1 ≤ failure.location.line ∧ failure.location.line ≤ lines.length ∧
      lines[failure.location.line - 1]? = some failure.lineText := by
  obtain ⟨before, line, after, middle, problem, rfl, -, -, rfl⟩ := h
  have hplace : (failureAt setting (1 + before.length) line problem).location.line =
      before.length + 1 := Nat.add_comm 1 _
  rw [hplace, List.length_append, List.length_cons]
  -- the numbers of lines begin with 1, the places in the list with 0
  refine ⟨by omega, by omega, ?_⟩
  simp [failureAt]

/-- The lines before it have been taken. -/
theorem taken (h : FailsOnLine setting lines failure) :
    ∃ middle, (feedAll setting 1 (lines.take (failure.location.line - 1)) start).outcome =
      .ok middle := by
  obtain ⟨before, line, after, middle, problem, rfl, htaken, -, rfl⟩ := h
  refine ⟨middle, ?_⟩
  have hplace : (failureAt setting (1 + before.length) line problem).location.line - 1 =
      before.length := Nat.add_sub_cancel_left 1 _
  rw [hplace, List.take_left]
  exact htaken

/-- What follows the line does not matter. -/
theorem of_take_eq {lines' : List Text} (h : FailsOnLine setting lines failure)
    (htake : lines'.take failure.location.line = lines.take failure.location.line) :
    FailsOnLine setting lines' failure := by
  obtain ⟨before, line, after, middle, problem, rfl, htaken, hproblem, rfl⟩ := h
  have hplace : (failureAt setting (1 + before.length) line problem).location.line =
      (before ++ [line]).length := by
    rw [List.length_append, List.length_singleton]
    exact Nat.add_comm 1 _
  -- the first lines of both are the lines before and the line that is refused
  have hfront : (before ++ line :: after).take (before ++ [line]).length = before ++ [line] := by
    rw [List.append_cons before line after]
    exact List.take_left
  rw [hplace, hfront] at htake
  have hlines' : lines' = before ++ line :: lines'.drop (before ++ [line]).length := by
    calc lines' = lines'.take (before ++ [line]).length ++ lines'.drop (before ++ [line]).length :=
          (List.take_append_drop _ _).symm
      _ = before ++ line :: lines'.drop (before ++ [line]).length := by
          rw [htake, ← List.append_cons]
  exact ⟨before, line, _, middle, problem, hlines', htaken, hproblem, rfl⟩

end FailsOnLine

/-! ## A page that is refused -/

namespace FailsAtEnd

/-- The failure names the line that opened the page. -/
theorem lastStart (h : FailsAtEnd setting lines failure) :
    LastStart setting.files setting.base lines failure.location.line failure.lineText := by
  obtain ⟨last, page, problem, htaken, hcurrent, -, rfl⟩ := h
  obtain ⟨line, hstart⟩ := ((sound_of_feedAll_eq_ok htaken).current page hcurrent).openedAt
  show LastStart setting.files setting.base lines page.draft.openedAt
    (lines[page.draft.openedAt - 1]?.getD [])
  -- the line is there, so the empty text that stands in for it is not used
  rw [hstart.getElem?, Option.getD_some]
  exact hstart

/-- The page may not stay open, or it cannot be closed. -/
theorem problem (h : FailsAtEnd setting lines failure) :
    if setting.options.allowUnterminatedPage then failure.problem.IsOfClosing
    else failure.problem = .unterminatedPage := by
  obtain ⟨last, page, problem, htaken, hcurrent, hproblem, rfl⟩ := h
  have hsound := (sound_of_feedAll_eq_ok htaken).current page hcurrent
  -- text behind a check is no reason, since the block that waits comes before any check
  have hclass := closeLast_failsOnly hsound.postChecks_of_isSome_pending problem hproblem
  split at hclass
  · next hallowed =>
    rw [if_pos hallowed]
    rcases hclass with hempty | ⟨pending, -, hrefused⟩
    · exact .inl hempty
    · exact hrefused.isOfClosing
  · next hallowed =>
    rw [if_neg hallowed]
    exact hclass

end FailsAtEnd

/-- A failure names the document that is compiled. -/
theorem file_of_run_eq_error (h : (run setting lines).outcome = .error failure) :
    failure.location.file = setting.options.fileName := by
  rcases run_eq_error_iff.mp h with hline | hend
  · obtain ⟨before, line, after, middle, problem, -, -, -, rfl⟩ := hline
    rfl
  · obtain ⟨last, page, problem, -, -, -, rfl⟩ := hend
    rfl

end Assembly

end TutorialPages
