import TutorialPages.Proofs.Assembly.Sound
import TutorialPages.Proofs.Document.Compiled

/-!
# Where pre-commands stand

The pre-commands of a page are kept apart from its text and its post-checks, and nothing looks at
them before the page is closed. So when blocks are not grouped, a pre-command may change places with
a line of text or a post-check beside it: `feed_addPreCommand` says that such a line does the same
to a page with one more pre-command, and two runs in which neighbours have changed places meet again
behind them.
-/

namespace TutorialPages

open Layout Traced

namespace Layout

variable (files : FileSource) (base : Path)

/-- Whether a line is a pre-command. -/
def isPreCommand (line : Text) : Bool :=
  ((directive? files base line).bind Directive.preCommand?).isSome

/-- Whether a line is a post-check or text. -/
def isPostCheckOrText (line : Text) : Bool :=
  isPostCheck files base line || !Directive.isMarked line

variable {files base} {line : Text}

theorem isPreCommand_iff :
    isPreCommand files base line = true ↔
      ∃ command, directive? files base line = some (.pre command) := by
  rw [isPreCommand]
  cases directive? files base line with
  | none => simp
  | some directive => cases directive <;> simp [Directive.preCommand?]

theorem isPostCheck_iff :
    isPostCheck files base line = true ↔
      ∃ check, directive? files base line = some (.post check) := by
  rw [isPostCheck]
  cases directive? files base line with
  | none => simp
  | some directive => cases directive <;> simp [Directive.postCheck?]

/-- A post-check or text is no page marker. -/
theorem isPageMarker_of_isPostCheckOrText (h : isPostCheckOrText files base line = true) :
    isPageMarker files base line = false := by
  rw [isPostCheckOrText, Bool.or_eq_true, Bool.not_eq_true'] at h
  rcases h with hcheck | htext
  · obtain ⟨check, hdirective⟩ := isPostCheck_iff.mp hcheck
    simp [isPageMarker, opensPage, closesPage, hdirective]
  · exact isPageMarker_of_not_isMarked files base htext

/-- Behind a line that is no page marker the same page is open. -/
theorem leavesOpen_concat_of_not_marker (h : isPageMarker files base line = false)
    (before : List Text) :
    leavesOpen files base (before ++ [line]) = leavesOpen files base before := by
  rw [leavesOpen, nearestMarker?_concat, h]
  rfl

end Layout

/-! ## One more pre-command -/

/-- The page with one more pre-command. -/
def OpenPage.addPreCommand (command : PreCommand) (page : OpenPage) : OpenPage :=
  { page with draft := page.draft.addPreCommand command }

/-- The assembly whose open page has one more pre-command. -/
def Assembly.addPreCommand (command : PreCommand) (assembly : Assembly) : Assembly :=
  { assembly with current := assembly.current.map (OpenPage.addPreCommand command) }

namespace Assembly

variable {setting : Setting} {line : Text} {page : OpenPage} {assembly next : Assembly}
  {command : PreCommand}

theorem embedImage_addPreCommand (line : Text) (page : OpenPage) :
    Matches Eq (fun value value' => value' = value.addPreCommand command)
      (embedImage setting line page) (embedImage setting line (page.addPreCommand command)) := by
  unfold embedImage
  split
  -- the image comes from the line and the files, whatever the page
  · refine (Matches.refl (Image.embed setting.files setting.base line)).bind ?_
    intro asset asset' hasset
    subst hasset
    exact Matches.pure rfl
  · exact Matches.pure rfl

theorem addRendered_addPreCommand (fragment : Text) (page : OpenPage) :
    Matches Eq (fun value value' => value' = value.addPreCommand command)
      (addRendered setting fragment page)
      (addRendered setting fragment (page.addPreCommand command)) := by
  refine (Matches.refl (render setting fragment)).bind ?_
  intro html html' hhtml
  subst hhtml
  -- only post-checks keep a draft from accepting text
  have haccepts : (page.addPreCommand command).draft.acceptsText = page.draft.acceptsText := rfl
  refine (Matches.ofExcept (R := fun draft draft' => draft' = draft.addPreCommand command)
    (Draft.addText_matches haccepts rfl)).bind ?_
  rintro draft _ rfl
  exact Matches.pure rfl

theorem addLine_addPreCommand (number number' : Nat) (line : Text) (page : OpenPage) :
    Matches Eq (fun value value' => value' = value.addPreCommand command)
      (addLine setting number line page)
      (addLine setting number' line (page.addPreCommand command)) := by
  refine (embedImage_addPreCommand line page).bind ?_
  intro embedded embedded' hembedded
  subst hembedded
  refine (Matches.log ..).bind fun _ _ _ => ?_
  exact addRendered_addPreCommand line embedded

section NotGrouped

variable (hplain : setting.options.groupCodeFences = false)

include hplain

theorem feedText_addPreCommand (number number' : Nat) (line : Text) (page : OpenPage) :
    Matches Eq (fun value value' => value' = value.addPreCommand command)
      (feedText setting number line page)
      (feedText setting number' line (page.addPreCommand command)) := by
  have haccepts : (page.addPreCommand command).draft.acceptsText = page.draft.acceptsText := rfl
  simp only [feedText, haccepts, hplain, Bool.false_eq_true, ↓reduceIte]
  split
  -- both pages have a post-check already, or neither has
  · exact Matches.fail rfl
  · split
    · exact Matches.pure rfl
    · exact addLine_addPreCommand number number' line page

/-- A post-check or a line of text does the same, under any number, to a page with one more
pre-command. -/
theorem feed_addPreCommand (number number' : Nat) (hcurrent : assembly.current = some page)
    (hpending : page.pending = none)
    (hline : isPostCheckOrText setting.files setting.base line = true) :
    Matches Eq (fun value value' => value' = value.addPreCommand command)
      (feed setting number line assembly)
      (feed setting number' line (assembly.addPreCommand command)) := by
  have hcurrent' : (assembly.addPreCommand command).current =
      some (page.addPreCommand command) := by
    rw [addPreCommand, hcurrent, Option.map_some]
  have hpending' : (page.addPreCommand command).pending = none := hpending
  simp only [feed, hcurrent, hcurrent']
  cases hmarked : Directive.isMarked line with
  | false =>
    simp only [hpending, hpending', Bool.false_eq_true, ↓reduceIte]
    refine (feedText_addPreCommand hplain number number' line page).bind ?_
    intro taken taken' htaken
    subst htaken
    exact Matches.pure rfl
  | true =>
    rw [isPostCheckOrText, hmarked, Bool.not_true, Bool.or_false] at hline
    obtain ⟨check, hdirective⟩ := isPostCheck_iff.mp hline
    simp only [flushFence_of_none hpending, flushFence_of_none hpending', pure_bind, ↓reduceIte]
    refine (Matches.refl (Directive.read setting.files setting.base line)).bind_of_ok ?_
    intro directive directive' hread hsame
    subst hsame
    -- of the directives only a post-check is left
    obtain rfl : directive = .post check := by
      rw [(directive?_eq_some_iff hmarked).mpr hread] at hdirective
      exact Option.some.inj hdirective
    exact Matches.pure rfl

end NotGrouped

/-- A pre-command line adds its command to the open page. -/
theorem feed_preCommand_eq_ok {number : Nat} (hcurrent : assembly.current = some page)
    (hpending : page.pending = none)
    (hdirective : directive? setting.files setting.base line = some (.pre command)) :
    (feed setting number line assembly).outcome = .ok next ↔
      next = assembly.addPreCommand command := by
  -- the directive has been read, so the line takes the one branch that adds its command
  have hmarked := isMarked_of_directive?_eq_some hdirective
  have hassembly : { assembly with current := some page } = assembly := by rw [← hcurrent]
  rw [feed_inside_directive_eq_ok hcurrent hmarked, flushFence_of_none hpending]
  simp only [outcome_pure_eq_ok, exists_eq_left, feedDirective_eq_ok, hassembly,
    ← directive?_eq_some_iff hmarked, hdirective, Option.some.injEq, exists_eq_left',
    apply_pre_eq_ok hcurrent]
  rw [addPreCommand, hcurrent, Option.map_some]
  rfl

/-! ## Neighbours that change places -/

section Neighbours

variable {before : List Text} {first second : Text}
  (hplain : setting.options.groupCodeFences = false)

include hplain

/-- On the page that the lines leave open no block waits. -/
theorem exists_current_of_leavesOpen
    (hopen : leavesOpen setting.files setting.base before = true)
    (htaken : (feedAll setting 1 before start).outcome = .ok assembly) :
    ∃ page, assembly.current = some page ∧ page.pending = none := by
  have hsound := sound_of_feedAll_eq_ok htaken
  obtain ⟨-, rfl⟩ := feedAll_start_eq_ok.mp htaken
  rw [leavesOpen_eq 1, Option.isSome_iff_exists] at hopen
  obtain ⟨body, hbody⟩ := hopen
  have hcurrent := current_reached_inside hbody
  exact ⟨_, hcurrent, ((hsound.current _ hcurrent).ungrouped hplain).1⟩

variable (hopen : leavesOpen setting.files setting.base before = true)
  (hdirective : directive? setting.files setting.base first = some (.pre command))
  (hsecond : isPostCheckOrText setting.files setting.base second = true)

include hopen hdirective hsecond

/-- With the pre-command behind the other line its command comes last. -/
theorem feedAll_preCommand_behind :
    (feedAll setting 1 (before ++ [second, first]) start).outcome = .ok next ↔
      ∃ middle, (feedAll setting 1 (before ++ [second]) start).outcome = .ok middle ∧
        next = middle.addPreCommand command := by
  have hopen' : leavesOpen setting.files setting.base (before ++ [second]) = true := by
    -- the line is no page marker, so the page is open behind it too
    rw [leavesOpen_concat_of_not_marker (isPageMarker_of_isPostCheckOrText hsecond), hopen]
  rw [List.append_cons, feedAll_concat_eq_ok]
  refine exists_congr fun middle => and_congr_right fun htaken => ?_
  obtain ⟨page, hcurrent, hpending⟩ := exists_current_of_leavesOpen hplain hopen' htaken
  exact feed_preCommand_eq_ok hcurrent hpending hdirective

/-- With the pre-command before the other line it is the same. -/
theorem feedAll_preCommand_before :
    (feedAll setting 1 (before ++ [first, second]) start).outcome = .ok next ↔
      ∃ middle, (feedAll setting 1 (before ++ [second]) start).outcome = .ok middle ∧
        next = middle.addPreCommand command := by
  rw [List.append_cons, feedAll_concat_eq_ok]
  simp only [feedAll_concat_eq_ok]
  constructor
  -- the other line cannot tell whether the command is already there
  · rintro ⟨_, ⟨reached, htaken, hfirst⟩, hnext⟩
    obtain ⟨page, hcurrent, hpending⟩ := exists_current_of_leavesOpen hplain hopen htaken
    obtain rfl := (feed_preCommand_eq_ok hcurrent hpending hdirective).mp hfirst
    obtain ⟨middle, hmiddle, rfl⟩ :=
      (feed_addPreCommand hplain (1 + before.length) _ hcurrent hpending
        hsecond).outcome_eq_ok_iff.mp hnext
    exact ⟨middle, ⟨reached, htaken, hmiddle⟩, rfl⟩
  · rintro ⟨middle, ⟨reached, htaken, hmiddle⟩, rfl⟩
    obtain ⟨page, hcurrent, hpending⟩ := exists_current_of_leavesOpen hplain hopen htaken
    refine ⟨reached.addPreCommand command, ⟨reached, htaken, ?_⟩, ?_⟩
    · exact (feed_preCommand_eq_ok hcurrent hpending hdirective).mpr rfl
    · exact (feed_addPreCommand hplain _ _ hcurrent hpending hsecond).outcome_eq_ok_iff.mpr
        ⟨middle, hmiddle, rfl⟩

end Neighbours

/-- Behind the same lines two runs that have met go on alike. -/
theorem run_eq_ok_of_met {lines lines' : List Text} (hlength : lines'.length = lines.length)
    (hmet : ∀ next, (feedAll setting 1 lines start).outcome = .ok next →
      (feedAll setting 1 lines' start).outcome = .ok next) (after : List Text)
    {compiled : Compiled} (hrun : (run setting (lines ++ after)).outcome = .ok compiled) :
    (run setting (lines' ++ after)).outcome = .ok compiled := by
  rw [run_eq_ok, feedAll_append] at hrun
  obtain ⟨last, htaken, hfinish⟩ := hrun
  obtain ⟨middle, hmiddle, hlast⟩ := outcome_bind_eq_ok.mp htaken
  rw [← hlength] at hlast
  rw [run_eq_ok, feedAll_append]
  refine ⟨last, outcome_bind_eq_ok.mpr ⟨middle, hmet middle hmiddle, hlast⟩, ?_⟩
  -- the lines themselves are only needed where the end fails
  cases hcurrent : last.current with
  | none =>
    rw [finish_of_none hcurrent] at hfinish ⊢
    exact hfinish
  | some page => exact (finish_of_some hcurrent).mpr ((finish_of_some hcurrent).mp hfinish)

end Assembly

/-- A pre-command may be moved past its neighbours. When blocks are not grouped, lines that compile
still do, to the same pages with the same warnings, when on one page a pre-command and a line of
text or a post-check beside it change places. -/
theorem run_swap (setting : Setting) (before : List Text) (first second : Text)
    (after : List Text) (compiled : Compiled)
    (hplain : setting.options.groupCodeFences = false)
    (hopen : leavesOpen setting.files setting.base before = true)
    (hpair : isPreCommand setting.files setting.base first = true ∧
        isPostCheckOrText setting.files setting.base second = true ∨
      isPreCommand setting.files setting.base second = true ∧
        isPostCheckOrText setting.files setting.base first = true)
    (hrun : (Assembly.run setting (before ++ first :: second :: after)).outcome = .ok compiled) :
    (Assembly.run setting (before ++ second :: first :: after)).outcome = .ok compiled := by
  have hsplit : ∀ one other : Text,
      before ++ one :: other :: after = before ++ [one, other] ++ after := by simp
  rw [hsplit] at hrun ⊢
  refine Assembly.run_eq_ok_of_met (by simp) ?_ after hrun
  intro next htaken
  -- the two cases are each other's reverse
  rcases hpair with ⟨hpre, hother⟩ | ⟨hpre, hother⟩
  · obtain ⟨command, hdirective⟩ := isPreCommand_iff.mp hpre
    rw [Assembly.feedAll_preCommand_before hplain hopen hdirective hother] at htaken
    exact (Assembly.feedAll_preCommand_behind hplain hopen hdirective hother).mpr htaken
  · obtain ⟨command, hdirective⟩ := isPreCommand_iff.mp hpre
    rw [Assembly.feedAll_preCommand_behind hplain hopen hdirective hother] at htaken
    exact (Assembly.feedAll_preCommand_before hplain hopen hdirective hother).mpr htaken

/-- A pre-command behind a post-check moves before it, on a page that the next one closes. -/
theorem run_swap_verbatim :
    (Assembly.run (.verbatim {})
      ["-> START PAGE".toList, "Hi".toList, "-> EXECCOMMAND ls".toList,
        "-> CHECKCOMMANDOUT tux".toList, "-> START PAGE".toList, "Ho".toList]).outcome =
      .ok ⟨⟨[⟨[.execCommand "ls".toList], "Hi".toList, [.checkCommandOut "tux".toList], none⟩,
          ⟨[], "Ho".toList, [], none⟩]⟩,
        [.nestedStartPage ⟨none, 5⟩ 1, .unterminatedPage ⟨none, 5⟩]⟩ := by
  have hrun : (Assembly.run (.verbatim {})
      ["-> START PAGE".toList, "Hi".toList, "-> CHECKCOMMANDOUT tux".toList,
        "-> EXECCOMMAND ls".toList, "-> START PAGE".toList, "Ho".toList]).outcome =
      .ok ⟨⟨[⟨[.execCommand "ls".toList], "Hi".toList, [.checkCommandOut "tux".toList], none⟩,
          ⟨[], "Ho".toList, [], none⟩]⟩,
        [.nestedStartPage ⟨none, 5⟩ 1, .unterminatedPage ⟨none, 5⟩]⟩ := by
    rfl
  exact run_swap (.verbatim {}) ["-> START PAGE".toList, "Hi".toList] _ _ _ _ rfl rfl
    (.inr ⟨rfl, rfl⟩) hrun

end TutorialPages
