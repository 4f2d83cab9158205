import TutorialPages.Proofs.Assembly.Embedding
import TutorialPages.Proofs.Assembly.Refusal

/-!
# What an assembly reads

A line makes the reading that its place among the lines asks for, or it is refused before that. It
takes nothing else from the files.
-/

namespace TutorialPages

open Layout Traced

namespace Assembly

variable {setting : Setting} {number : Nat} {line fragment : Text} {page : OpenPage}
  {assembly : Assembly} {before : List Text}

/-! ## Operations that read nothing -/

theorem reads_addRendered : (addRendered setting fragment page).reads = [] :=
  reads_bind_eq_nil rfl fun _ => reads_bind_eq_nil rfl fun _ => rfl

theorem reads_flushFence : (flushFence setting page assembly).reads = [] := by
  cases hpending : page.pending with
  | none =>
    rw [flushFence_of_none hpending]
    rfl
  | some pending =>
    simp only [flushFence, hpending]
    exact reads_bind_eq_nil reads_addRendered fun _ => reads_bind_eq_nil rfl fun _ => rfl

theorem reads_closePage : (closePage setting page assembly).reads = [] :=
  reads_bind_eq_nil reads_flushFence fun _ => reads_bind_eq_nil rfl fun _ => rfl

theorem reads_apply (directive : Directive) :
    (apply setting number directive assembly).reads = [] := by
  cases hcurrent : assembly.current with
  -- outside of any page a directive opens a page or fails
  | none => cases directive <;> simp only [apply, hcurrent] <;> rfl
  | some page =>
    cases directive with
    | startPage =>
      simp only [apply, hcurrent]
      exact reads_bind_eq_nil rfl fun _ => reads_bind_eq_nil reads_closePage fun _ => rfl
    | endPage =>
      simp only [apply, hcurrent]
      exact reads_closePage
    | pre command | post check =>
      simp only [apply, hcurrent]
      rfl

theorem reads_skip : (skip setting number line assembly).reads = [] := by
  unfold skip
  split
  · rfl
  · exact reads_bind_eq_nil rfl fun _ => rfl

theorem reads_feedBlock (pending : PendingFence) :
    (feedBlock setting line page pending).reads = [] := by
  unfold feedBlock
  dsimp only
  split
  · exact reads_addRendered
  · rfl

theorem reads_closeLast : (closeLast setting page assembly).reads = [] := by
  unfold closeLast
  split
  · rfl
  · exact reads_bind_eq_nil rfl fun _ => reads_closePage

/-! ## Operations that read -/

theorem reads_feedDirective :
    (feedDirective setting number line assembly).reads =
      (Directive.embeddedName? line).toList.map fun name =>
        (.text, Path.below setting.base name) := by
  rw [feedDirective, reads_bind_of_silent fun directive => reads_apply directive,
    Directive.reads_read]

/-- A line that is rendered by itself reads the image that it refers to, before it is rendered. -/
theorem reads_addLine :
    (addLine setting number line page).reads =
      if Image.isReference line then
        (Image.fileName? line).toList.map fun name => (.bytes, Path.below setting.base name)
      else [] := by
  -- once the image is there, nothing more is read
  have hrest : ∀ embedded : OpenPage, (Traced.log .trace
      (.join ["line ", Text.ofNat number, " rendered as prose"]) >>= fun _ =>
        addRendered setting line embedded).reads = [] :=
    fun _ => reads_bind_eq_nil rfl fun _ => reads_addRendered
  rw [addLine, reads_bind_of_silent hrest, embedImage]
  split
  · rw [reads_bind_of_silent fun _ => rfl, Image.reads_embed]
  · rfl

/-! ## What a line reads -/

theorem reads_feed_outside (hfollows : assembly.Follows setting before)
    (hcurrent : assembly.current = none) :
    (feed setting number line assembly).reads =
      (lineRead? setting before line).toList.map PlacedRead.read := by
  have hopen := hfollows.openBody?_of_none hcurrent
  cases hmarked : Directive.isMarked line with
  | true =>
    -- the file is read before it is known that the directive has no page
    rw [feed_outside_directive hcurrent hmarked, reads_feedDirective,
      lineRead?_of_isMarked hmarked]
    cases Directive.embeddedName? line <;> rfl
  | false =>
    rw [feed_outside_text hcurrent hmarked, reads_skip,
      lineRead?_of_not_embedsImage hmarked (embedsImage_outside hopen)]
    rfl

theorem flushFence_failsOnly_isOfText :
    (flushFence setting page assembly).FailsOnly Problem.IsOfText := by
  cases hpending : page.pending with
  | none =>
    rw [flushFence_of_none hpending]
    exact FailsOnly.pure _
  | some pending =>
    simp only [flushFence, hpending]
    refine FailsOnly.bind ?_ fun _ _ => (warn_failsOnly _).bind fun _ _ => FailsOnly.pure _
    -- the renderer refuses the block, or the page takes no text
    refine FailsOnly.bind ?_ fun html _ => FailsOnly.bind ?_ fun _ _ => FailsOnly.pure _
    · refine (render_failsOnly _).mono ?_
      rintro problem ⟨error, -, hproblem⟩
      exact .inr ⟨error, hproblem⟩
    intro problem hproblem
    -- the page can refuse the text only because of a check
    rw [outcome_ofExcept, Draft.addText_eq] at hproblem
    split at hproblem
    · cases hproblem
    · cases hproblem
      exact .inl rfl

theorem reads_feedText (htracker : page.tracker = none)
    (haccepts : page.draft.acceptsText = true) :
    (feedText setting number line page).reads =
      if Image.isReference line &&
          !(setting.options.groupCodeFences && (Fence.opener? line).isSome) then
        (Image.fileName? line).toList.map fun name => (.bytes, Path.below setting.base name)
      else [] := by
  -- behind the guard the line is blank, begins a block, or is rendered by itself
  rw [feedText_eq htracker, haccepts, if_neg (by decide)]
  cases hblank : Text.allBlank line with
  | true => simp [isReference_of_allBlank hblank]
  | false =>
    cases hgrouped : setting.options.groupCodeFences with
    | false => simp [reads_addLine]
    | true =>
      cases hopener : Fence.opener? line with
      | none => simp [reads_addLine]
      | some fence => simp

section Inside

variable {body : PageBody} (hopen : openBody? setting.files setting.base 1 before = some body)
  (hwaiting : body.waiting setting.options.groupCodeFences = page.waiting)
  (hcurrent : assembly.current = some page)

include hcurrent

/-- The block that waits is ended first, and only when this succeeds is the directive read. -/
theorem reads_feed_directive (before : List Text) (hmarked : Directive.isMarked line = true) :
    (feed setting number line assembly).reads =
        (lineRead? setting before line).toList.map PlacedRead.read ∨
      (feed setting number line assembly).reads = [] ∧
        ∃ problem, (feed setting number line assembly).outcome = .error problem ∧
          problem.IsOfText := by
  simp only [feed, hcurrent, hmarked, ↓reduceIte]
  cases hflush : (flushFence setting page assembly).outcome with
  | ok flushed =>
    -- the block has been ended without a reading, and the directive makes the only one
    left
    rw [reads_bind_of_ok hflush, reads_flushFence, List.nil_append, reads_feedDirective,
      lineRead?_of_isMarked hmarked]
    cases Directive.embeddedName? line <;> rfl
  | error problem =>
    -- the block could not be ended, so the directive is not read at all
    right
    refine ⟨by rw [reads_bind_of_error hflush, reads_flushFence], problem, ?_, ?_⟩
    · exact outcome_bind_eq_error.mpr (.inl hflush)
    · exact flushFence_failsOnly_isOfText problem hflush

include hopen hwaiting

/-- A line inside a block is kept as it is. -/
theorem reads_feed_block {pending : PendingFence} (hmarked : Directive.isMarked line = false)
    (hpending : page.pending = some pending) :
    (feed setting number line assembly).reads =
      (lineRead? setting before line).toList.map PlacedRead.read := by
  have hwaits := (Prod.mk.inj hwaiting).2
  rw [hpending, Option.isSome_some] at hwaits
  -- a line that goes into a block is not looked at for images
  have hembeds : embedsImage setting before line = false := by
    rw [embedsImage_inside hmarked hopen, standsAlone]
    simp [← Option.not_isSome, hwaits]
  simp only [feed, hcurrent, hmarked, hpending, Bool.false_eq_true, ↓reduceIte]
  rw [reads_bind_of_silent fun _ => rfl, reads_feedBlock,
    lineRead?_of_not_embedsImage hmarked hembeds]
  rfl

theorem reads_feed_text (hmarked : Directive.isMarked line = false) (hpending : page.pending = none)
    (haccepts : page.draft.acceptsText = true) :
    (feed setting number line assembly).reads =
      (lineRead? setting before line).toList.map PlacedRead.read := by
  -- no fence is open where no block waits, so the tests of the line are those of the reading
  have htracker := tracker_eq_none_of_waiting hwaiting hpending
  simp only [feed, hcurrent, hmarked, hpending, Bool.false_eq_true, ↓reduceIte]
  rw [reads_bind_of_silent fun _ => rfl, reads_feedText htracker haccepts, lineRead?, hmarked,
    if_neg Bool.false_ne_true, embedsImage_eq hopen hwaiting hmarked hpending]
  split
  · cases Image.fileName? line <;> rfl
  · rfl

end Inside

/-- A line makes its reading, or it is refused before that because of the text on the page. -/
theorem reads_feed (hfollows : assembly.Follows setting before) :
    (feed setting number line assembly).reads =
        (lineRead? setting before line).toList.map PlacedRead.read ∨
      (feed setting number line assembly).reads = [] ∧
        ∃ problem, (feed setting number line assembly).outcome = .error problem ∧
          problem.IsOfText := by
  cases hcurrent : assembly.current with
  | none => exact .inl (reads_feed_outside hfollows hcurrent)
  | some page =>
    obtain ⟨body, hopen, hwaiting⟩ := hfollows.openBody?_of_some hcurrent
    cases hmarked : Directive.isMarked line with
    | true => exact reads_feed_directive hcurrent before hmarked
    | false =>
      cases hpending : page.pending with
      | some pending => exact .inl (reads_feed_block hopen hwaiting hcurrent hmarked hpending)
      | none =>
        cases haccepts : page.draft.acceptsText with
        | true => exact .inl (reads_feed_text hopen hwaiting hcurrent hmarked hpending haccepts)
        -- text behind a post-check is refused before it is looked at
        | false =>
          have hchecks : page.draft.page.postChecks ≠ [] := by
            rw [ne_eq, ← Draft.acceptsText_iff, haccepts]
            exact Bool.false_ne_true
          rw [feed_of_textAfterPostCheck hcurrent hmarked hpending hchecks]
          exact .inr ⟨rfl, _, rfl, .inl rfl⟩

/-! ## Other files -/

theorem dependsOnReads_addLine (setting : Setting) (number : Nat) (line : Text)
    (page : OpenPage) :
    DependsOnReads fun files => addLine { setting with files } number line page := by
  -- only the image comes from the files; the rest of the line is the same with all of them
  refine DependsOnReads.bind ?_ fun embedded => DependsOnReads.const (do
    Traced.log .trace (.join ["line ", Text.ofNat number, " rendered as prose"])
    addRendered setting line embedded)
  unfold embedImage
  split
  · exact (Image.dependsOnReads_embed setting.base line).bind fun _ => DependsOnReads.const _
  · exact DependsOnReads.const _

theorem dependsOnReads_feedText (setting : Setting) (number : Nat) (line : Text)
    (page : OpenPage) :
    DependsOnReads fun files => feedText { setting with files } number line page := by
  -- all that is asked before is asked of the line and the page
  cases haccepts : page.draft.acceptsText with
  | false =>
    simp only [feedText, haccepts]
    exact DependsOnReads.const _
  | true =>
    cases hblank : Text.allBlank line with
    | true =>
      simp only [feedText, haccepts, hblank]
      exact DependsOnReads.const _
    | false =>
      cases hgrouped : setting.options.groupCodeFences with
      | false =>
        simp only [feedText, haccepts, hblank, hgrouped]
        exact dependsOnReads_addLine setting number line page
      | true =>
        simp only [feedText, haccepts, hblank, hgrouped, Bool.not_true, Bool.false_eq_true,
          ↓reduceIte]
        split
        · exact DependsOnReads.const _
        · exact dependsOnReads_addLine setting number line _

/-- A line takes from the files nothing but the answer to its reading. -/
theorem dependsOnReads_feed (setting : Setting) (number : Nat) (line : Text)
    (assembly : Assembly) :
    DependsOnReads fun files => feed { setting with files } number line assembly := by
  -- what follows on a directive that has been read asks no file
  have hdirective : ∀ given : Assembly,
      DependsOnReads fun files => feedDirective { setting with files } number line given :=
    fun given => (Directive.dependsOnReads_read setting.base line).bind fun directive =>
      DependsOnReads.const (apply setting number directive given)
  cases hcurrent : assembly.current with
  | none =>
    simp only [feed, hcurrent]
    split
    · exact hdirective assembly
    · exact DependsOnReads.const (skip setting number line assembly)
  | some page =>
    simp only [feed, hcurrent]
    split
    · refine (DependsOnReads.const (flushFence setting page assembly)).bind fun flushed => ?_
      exact hdirective { flushed.2 with current := some flushed.1 }
    · cases page.pending with
      | some pending =>
        refine DependsOnReads.bind ?_ fun _ => DependsOnReads.const _
        exact DependsOnReads.const (feedBlock setting line page pending)
      | none =>
        refine DependsOnReads.bind ?_ fun _ => DependsOnReads.const _
        exact dependsOnReads_feedText setting number line page

end Assembly

end TutorialPages
