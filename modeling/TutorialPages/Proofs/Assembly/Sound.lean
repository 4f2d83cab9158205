import TutorialPages.Proofs.Assembly.Reached

/-!
# What holds between two lines

Behind any lines that have been taken, the parts of an assembly fit together: a block waits exactly
where a fence is open, it consists of the last lines and of text alone, the open page is that of the
last `START PAGE`, and no finished page is empty. So whatever a step looks up is there.
-/

namespace TutorialPages

open Layout

/-! ## The invariant -/

/-- The block that waits on a page is made of the last of the lines, which are all text. -/
structure PendingFence.Sound (before : List Text) (page : OpenPage) (pending : PendingFence) :
    Prop where
  /-- It is the block of the fence that is open. -/
  marker : page.tracker.marker? = some pending.marker
  source : ∃ earlier lines, before = earlier ++ lines ∧ lines ≠ [] ∧
    pending.openedAt = earlier.length + 1 ∧ pending.source = Text.joinWith ['\n'] lines ∧
    ∀ line ∈ lines, Directive.isMarked line = false
  unchecked : page.draft.page.postChecks = []

/-- The parts of an open page fit together, and the page fits the lines. -/
structure OpenPage.Sound (setting : Setting) (before : List Text) (page : OpenPage) : Prop where
  /-- Where blocks are not grouped, no fence is followed and no block waits. -/
  ungrouped : setting.options.groupCodeFences = false →
    page.pending = none ∧ page.tracker = FenceTracker.start
  /-- A block waits exactly where a fence is open. -/
  isSome_pending : page.pending.isSome = page.tracker.isSome
  pending : ∀ pending, page.pending = some pending → pending.Sound before page
  /-- The page has been opened by the last `START PAGE`. -/
  openedAt : ∃ line, LastStart setting.files setting.base before page.draft.openedAt line

/-- The open page is sound, and no finished page is empty. -/
structure Assembly.Sound (setting : Setting) (before : List Text) (assembly : Assembly) : Prop where
  current : ∀ page, assembly.current = some page → page.Sound setting before
  inhabited : ∀ page ∈ assembly.pages, page.isEmpty = false

variable {setting : Setting} {before : List Text} {assembly : Assembly}

/-! ## It holds behind any lines -/

/-- The block that waits on the open page is one of the lines before. -/
theorem PageBody.sound_pending {body : PageBody}
    (hopen : openBody? setting.files setting.base 1 before = some body)
    (hfirst : body.TextFirst setting.files setting.base) {pending : PendingFence}
    (hpending : (body.openPage setting).pending = some pending) :
    pending.Sound before (body.openPage setting) := by
  rw [PageBody.openPage, Option.map_eq_some_iff] at hpending
  obtain ⟨block, hblock, rfl⟩ := hpending
  refine ⟨?_, ?_, PageBody.postChecks_eq_nil_of_pending? hfirst hblock⟩
  · simp [PageBody.openPage, FenceTracker.marker?, hblock]
  · obtain ⟨earlier, hbefore, hopened, htext⟩ :=
      PageBody.exists_eq_append_of_pending? hopen hblock
    exact ⟨earlier, block.lines, hbefore, List.cons_ne_nil _ _, hopened, rfl, htext⟩

/-- The page that the lines leave open is sound. -/
theorem PageBody.sound_openPage {body : PageBody}
    (hopen : openBody? setting.files setting.base 1 before = some body)
    (hfirst : body.TextFirst setting.files setting.base) :
    (body.openPage setting).Sound setting before where
  ungrouped hgrouped := by
    have hnone : body.pending? setting.options.groupCodeFences = none := by
      rw [hgrouped]
      exact body.pending?_of_not_grouped
    simp [PageBody.openPage, hnone, FenceTracker.start]
  isSome_pending := by
    rw [PageBody.openPage, Option.isSome_map, Option.isSome_map]
  pending _ hpending := PageBody.sound_pending hopen hfirst hpending
  openedAt := lastStart_of_openBody? hopen

/-- Behind lines that can be taken the assembly is sound. -/
theorem Passable.sound_reached (hpassable : Passable setting before) :
    (Assembly.reached setting before).Sound setting before := by
  refine ⟨?_, ?_⟩
  · intro page hpage
    rw [Assembly.reached, Option.map_eq_some_iff] at hpage
    obtain ⟨body, hopen, rfl⟩ := hpage
    exact PageBody.sound_openPage hopen (hpassable.textFirst_of_openBody? hopen)
  · intro page hpage
    obtain ⟨body, hbody, rfl⟩ := List.mem_map.mp hpage
    exact hpassable.inhabited body hbody

theorem Assembly.sound_of_feedAll_eq_ok
    (h : (feedAll setting 1 before start).outcome = .ok assembly) :
    assembly.Sound setting before := by
  obtain ⟨hpassable, rfl⟩ := feedAll_start_eq_ok.mp h
  exact hpassable.sound_reached

/-! ## What is looked up is there -/

/-- A fence that a line opens has a mark. -/
theorem FenceTracker.marker?_of_observe_opened {tracker tracker' : FenceTracker} {line : Text}
    (h : tracker.observe line = (.opened, tracker')) :
    ∃ marker, tracker'.marker? = some marker := by
  cases tracker with
  -- where no fence is open, the line opens one whose mark is then kept
  | none =>
    have hstart := FenceTracker.observe_start line
    rw [FenceTracker.start, h] at hstart
    cases hopener : Fence.opener? line with
    | none =>
      rw [hopener] at hstart
      cases hstart
    | some fence =>
      rw [hopener] at hstart
      cases hstart
      exact ⟨fence.marker, rfl⟩
  -- where one is open, no line opens another
  | some fence =>
    rw [FenceTracker.observe_open] at h
    split at h
    · cases h
    · cases h

/-- Only a fence that is open can be closed. -/
theorem FenceTracker.isSome_of_observe_closed {tracker tracker' : FenceTracker} {line : Text}
    (h : tracker.observe line = (.closed, tracker')) : tracker.isSome = true := by
  cases tracker with
  | none =>
    have hstart := FenceTracker.observe_start line
    rw [FenceTracker.start, h] at hstart
    split at hstart
    · cases hstart
    · cases hstart
  | some fence => rfl

/-- Where a line closes a fence, a block waits. -/
theorem OpenPage.Sound.isSome_pending_of_closed {page : OpenPage} (h : page.Sound setting before)
    {line : Text} {tracker : FenceTracker}
    (hclosed : page.tracker.observe line = (.closed, tracker)) :
    page.pending.isSome = true := by
  rw [h.isSome_pending]
  exact FenceTracker.isSome_of_observe_closed hclosed

/-- Where a block waits, there is no post-check. -/
theorem OpenPage.Sound.postChecks_of_isSome_pending {page : OpenPage}
    (h : page.Sound setting before) (hpending : page.pending.isSome = true) :
    page.draft.page.postChecks = [] := by
  obtain ⟨pending, hsome⟩ := Option.isSome_iff_exists.mp hpending
  exact (h.pending pending hsome).unchecked

end TutorialPages
