import TutorialPages.Assembly.Run
import TutorialPages.Proofs.Page.Draft
import TutorialPages.Proofs.Traced

/-!
# Other places for the same lines

An assembly looks neither at the name of the document nor at the number of a line, it only writes
them down; and it does not look at the pages that are finished or at the warnings that it has given.
So lines do the same under another name and other numbers, with other pages and warnings before
them: the same files are read, and the outcome is the same with the places replaced. How they are
replaced does not matter, as long as what has been written down before is replaced in the same way.
-/

namespace TutorialPages

/-! ## Replacing places -/

/-- Another name for a document and other numbers for its lines. -/
structure Relocation where
  file : Option Text → Option Text
  line : Nat → Nat

/-- The location of the same line under its other name and number. -/
def Location.relocate (r : Relocation) (location : Location) : Location :=
  ⟨r.file location.file, r.line location.line⟩

/-- The warning about the same lines at their other places. -/
def Warning.relocate (r : Relocation) : Warning → Warning
  | .contentOutsidePage location => .contentOutsidePage (location.relocate r)
  | .nestedStartPage location openedAt => .nestedStartPage (location.relocate r) (r.line openedAt)
  | .unterminatedPage location => .unterminatedPage (location.relocate r)
  | .unclosedCodeFence location marker => .unclosedCodeFence (location.relocate r) marker

/-- The failure of the same line at its other place. -/
def Failure.relocate (r : Relocation) (failure : Failure) : Failure :=
  { failure with location := failure.location.relocate r }

/-- The setting where the document has its other name. -/
def Setting.relocate (r : Relocation) (setting : Setting) : Setting :=
  { setting with options.fileName := r.file setting.options.fileName }

def PendingFence.renumber (f : Nat → Nat) (pending : PendingFence) : PendingFence :=
  { pending with openedAt := f pending.openedAt }

def OpenPage.renumber (f : Nat → Nat) (page : OpenPage) : OpenPage where
  draft := { page.draft with openedAt := f page.draft.openedAt }
  tracker := page.tracker
  pending := page.pending.map (PendingFence.renumber f)

/-- The assembly of the same lines at other places, behind the pages and warnings of another. -/
def Assembly.relocate (assembly : Assembly) (r : Relocation) (front : Assembly) : Assembly where
  current := assembly.current.map (OpenPage.renumber r.line)
  pages := front.pages ++ assembly.pages
  warnings := front.warnings ++ assembly.warnings.map (Warning.relocate r)

theorem OpenPage.pending_renumber_of_none {page : OpenPage} (f : Nat → Nat)
    (h : page.pending = none) : (page.renumber f).pending = none := by
  rw [OpenPage.renumber, h, Option.map_none]

theorem OpenPage.pending_renumber_of_some {page : OpenPage} {pending : PendingFence}
    (f : Nat → Nat) (h : page.pending = some pending) :
    (page.renumber f).pending = some (pending.renumber f) := by
  rw [OpenPage.renumber, h, Option.map_some]

namespace Assembly

open Traced

variable {setting : Setting} {r : Relocation} {front : Assembly}

theorem current_relocate_of_none {assembly : Assembly} (h : assembly.current = none) :
    (assembly.relocate r front).current = none := by
  rw [Assembly.relocate, h, Option.map_none]

theorem current_relocate_of_some {assembly : Assembly} {page : OpenPage}
    (h : assembly.current = some page) :
    (assembly.relocate r front).current = some (page.renumber r.line) := by
  rw [Assembly.relocate, h, Option.map_some]

/-! ## The operations at other places -/

theorem warn_relocate (warning : Warning) (assembly : Assembly) :
    Matches Eq (fun value value' => value' = value.relocate r front)
      (warn warning assembly) (warn (warning.relocate r) (assembly.relocate r front)) := by
  refine (Matches.log ..).bind fun _ _ _ => ?_
  apply Matches.pure
  simp [Assembly.relocate]

theorem addRendered_relocate (fragment : Text) (page : OpenPage) :
    Matches Eq (fun value value' => value' = value.renumber r.line)
      (addRendered setting fragment page)
      (addRendered (setting.relocate r) fragment (page.renumber r.line)) := by
  refine (Matches.refl (render setting fragment)).bind ?_
  intro html html' hhtml
  subst hhtml
  -- a draft accepts text wherever it was opened
  have haccepts : (page.renumber r.line).draft.acceptsText = page.draft.acceptsText := rfl
  refine (Matches.ofExcept
    (R := fun draft draft' => draft' = { draft with openedAt := r.line draft.openedAt })
    (Draft.addText_matches haccepts rfl)).bind ?_
  rintro draft _ rfl
  exact Matches.pure rfl

theorem flushFence_relocate (page : OpenPage) (assembly : Assembly) :
    Matches Eq (fun value value' => value' = (value.1.renumber r.line, value.2.relocate r front))
      (flushFence setting page assembly)
      (flushFence (setting.relocate r) (page.renumber r.line) (assembly.relocate r front)) := by
  -- whether a block waits is not a matter of places
  cases hpending : page.pending with
  | none =>
    simp only [flushFence, hpending, OpenPage.pending_renumber_of_none r.line hpending]
    exact Matches.pure rfl
  | some pending =>
    simp only [flushFence, hpending, OpenPage.pending_renumber_of_some r.line hpending]
    refine (addRendered_relocate pending.source
      { page with tracker := .start, pending := none }).bind ?_
    intro flushed flushed' hflushed
    subst hflushed
    -- the warning names the line of the opening fence, whose number is replaced too
    refine (warn_relocate (.unclosedCodeFence (locate setting.options pending.openedAt)
      pending.marker) assembly).bind ?_
    intro warned warned' hwarned
    subst hwarned
    exact Matches.pure rfl

theorem closePage_relocate (page : OpenPage) (assembly : Assembly) :
    Matches Eq (fun value value' => value' = value.relocate r front)
      (closePage setting page assembly)
      (closePage (setting.relocate r) (page.renumber r.line) (assembly.relocate r front)) := by
  refine (flushFence_relocate page assembly).bind ?_
  intro flushed flushed' hflushed
  subst hflushed
  rcases flushed with ⟨page, assembly⟩
  -- whether the page is empty does not depend on where it was opened
  refine (Matches.refl (Traced.ofExcept page.draft.finish)).bind ?_
  intro finished finished' hfinished
  subst hfinished
  refine (Matches.log ..).bind fun _ _ _ => ?_
  apply Matches.pure
  simp [Assembly.relocate]

theorem openPage_relocate (number : Nat) (assembly : Assembly) :
    Matches Eq (fun value value' => value' = value.relocate r front)
      (apply.openPage number assembly)
      (apply.openPage (r.line number) (assembly.relocate r front)) := by
  refine (Matches.log ..).bind fun _ _ _ => ?_
  exact Matches.pure rfl

theorem apply_relocate (number : Nat) (directive : Directive) (assembly : Assembly) :
    Matches Eq (fun value value' => value' = value.relocate r front)
      (apply setting number directive assembly)
      (apply (setting.relocate r) (r.line number) directive (assembly.relocate r front)) := by
  cases hcurrent : assembly.current with
  | none =>
    -- outside of any page only the number of the line is replaced
    have hcurrent' : (assembly.relocate r front).current = none := current_relocate_of_none hcurrent
    cases directive with
    | startPage =>
      simp only [apply, hcurrent, hcurrent']
      exact openPage_relocate number assembly
    | endPage =>
      simp only [apply, hcurrent, hcurrent']
      exact Matches.fail rfl
    | pre command =>
      simp only [apply, hcurrent, hcurrent']
      exact Matches.fail rfl
    | post check =>
      simp only [apply, hcurrent, hcurrent']
      exact Matches.fail rfl
  | some page =>
    have hcurrent' : (assembly.relocate r front).current = some (page.renumber r.line) :=
      current_relocate_of_some hcurrent
    cases directive with
    | startPage =>
      simp only [apply, hcurrent, hcurrent']
      -- the warning names two lines, this one and the one that opened the page
      refine (warn_relocate (.nestedStartPage (locate setting.options number) page.draft.openedAt)
        assembly).bind ?_
      intro warned warned' hwarned
      subst hwarned
      refine (closePage_relocate page warned).bind ?_
      intro closed closed' hclosed
      subst hclosed
      exact openPage_relocate number closed
    | endPage =>
      simp only [apply, hcurrent, hcurrent']
      exact closePage_relocate page assembly
    | pre command =>
      simp only [apply, hcurrent, hcurrent']
      exact Matches.pure rfl
    | post check =>
      simp only [apply, hcurrent, hcurrent']
      exact Matches.pure rfl

theorem feedDirective_relocate (number : Nat) (line : Text) (assembly : Assembly) :
    Matches Eq (fun value value' => value' = value.relocate r front)
      (feedDirective setting number line assembly)
      (feedDirective (setting.relocate r) (r.line number) line (assembly.relocate r front)) := by
  -- reading a directive does not depend on the assembly at all
  refine (Matches.refl (Directive.read setting.files setting.base line)).bind ?_
  intro directive directive' hdirective
  subst hdirective
  exact apply_relocate number directive assembly

theorem skip_relocate (number : Nat) (line : Text) (assembly : Assembly) :
    Matches Eq (fun value value' => value' = value.relocate r front)
      (skip setting number line assembly)
      (skip (setting.relocate r) (r.line number) line (assembly.relocate r front)) := by
  unfold skip
  split
  · exact Matches.pure rfl
  · refine (Matches.log ..).bind fun _ _ _ => ?_
    exact warn_relocate (.contentOutsidePage (locate setting.options number)) assembly

theorem embedImage_relocate (line : Text) (page : OpenPage) :
    Matches Eq (fun value value' => value' = value.renumber r.line)
      (embedImage setting line page)
      (embedImage (setting.relocate r) line (page.renumber r.line)) := by
  unfold embedImage
  split
  -- the image is the same wherever its line stands
  · refine (Matches.refl (Image.embed setting.files setting.base line)).bind ?_
    intro asset asset' hasset
    subst hasset
    exact Matches.pure rfl
  · exact Matches.pure rfl

theorem addLine_relocate (number : Nat) (line : Text) (page : OpenPage) :
    Matches Eq (fun value value' => value' = value.renumber r.line)
      (addLine setting number line page)
      (addLine (setting.relocate r) (r.line number) line (page.renumber r.line)) := by
  refine (embedImage_relocate line page).bind ?_
  intro embedded embedded' hembedded
  subst hembedded
  refine (Matches.log ..).bind fun _ _ _ => ?_
  exact addRendered_relocate line embedded

theorem feedText_relocate (number : Nat) (line : Text) (page : OpenPage) :
    Matches Eq (fun value value' => value' = value.renumber r.line)
      (feedText setting number line page)
      (feedText (setting.relocate r) (r.line number) line (page.renumber r.line)) := by
  -- both take the same branch: neither the name nor the numbers decide it
  have hgrouped : (setting.relocate r).options.groupCodeFences = setting.options.groupCodeFences :=
    rfl
  have haccepts : (page.renumber r.line).draft.acceptsText = page.draft.acceptsText := rfl
  have htracker : (page.renumber r.line).tracker = page.tracker := rfl
  unfold feedText
  rw [haccepts, htracker, hgrouped]
  split
  · exact Matches.fail rfl
  · split
    · exact Matches.pure rfl
    · split
      · split
        · exact Matches.pure rfl
        · exact addLine_relocate number line { page with tracker := _ }
      · exact addLine_relocate number line page

theorem feedBlock_relocate (line : Text) (page : OpenPage) (pending : PendingFence) :
    Matches Eq (fun value value' => value' = value.renumber r.line)
      (feedBlock setting line page pending)
      (feedBlock (setting.relocate r) line (page.renumber r.line) (pending.renumber r.line)) := by
  -- the fence that is followed has no number
  have htracker : (page.renumber r.line).tracker = page.tracker := rfl
  unfold feedBlock
  rw [htracker]
  dsimp only
  split
  · next tracker _ =>
    exact addRendered_relocate _ { page with tracker, pending := none }
  · exact Matches.pure rfl

/-- A line does the same at another place. -/
theorem feed_relocate (setting : Setting) (r : Relocation) (front : Assembly) (number : Nat)
    (line : Text) (assembly : Assembly) :
    Matches Eq (fun value value' => value' = value.relocate r front)
      (feed setting number line assembly)
      (feed (setting.relocate r) (r.line number) line (assembly.relocate r front)) := by
  cases hcurrent : assembly.current with
  | none =>
    simp only [feed, hcurrent, current_relocate_of_none hcurrent]
    split
    · exact feedDirective_relocate number line assembly
    · exact skip_relocate number line assembly
  | some page =>
    simp only [feed, hcurrent, current_relocate_of_some hcurrent]
    split
    -- a directive first ends the block that waits
    · refine (flushFence_relocate page assembly).bind ?_
      intro flushed flushed' hflushed
      subst hflushed
      rcases flushed with ⟨page, assembly⟩
      exact feedDirective_relocate number line { assembly with current := some page }
    · -- whether a block waits is the same at the other place
      cases hpending : page.pending with
      | none =>
        simp only [OpenPage.pending_renumber_of_none r.line hpending]
        refine (feedText_relocate number line page).bind ?_
        intro taken taken' htaken
        subst htaken
        exact Matches.pure rfl
      | some pending =>
        simp only [OpenPage.pending_renumber_of_some r.line hpending]
        refine (feedBlock_relocate line page pending).bind ?_
        intro taken taken' htaken
        subst htaken
        exact Matches.pure rfl

/-- A page is closed at the end of the document wherever its lines are. -/
theorem closeLast_relocate (setting : Setting) (r : Relocation) (front : Assembly)
    (page : OpenPage) (assembly : Assembly) :
    Matches Eq (fun value value' => value' = value.relocate r front)
      (closeLast setting page assembly)
      (closeLast (setting.relocate r) (page.renumber r.line) (assembly.relocate r front)) := by
  have hallow : (setting.relocate r).options.allowUnterminatedPage =
      setting.options.allowUnterminatedPage := rfl
  unfold closeLast
  rw [hallow]
  split
  · exact Matches.fail rfl
  · refine (warn_relocate (.unterminatedPage (locate setting.options page.draft.openedAt))
      assembly).bind ?_
    intro warned warned' hwarned
    subst hwarned
    exact closePage_relocate page warned

/-! ## Runs at other places -/

/-- Lines do the same at other places, as long as their numbers follow one another, and where they
fail, they fail at the other place. -/
theorem feedAll_relocate (setting : Setting) (r : Relocation) (front : Assembly) (number : Nat)
    (lines : List Text) (assembly : Assembly)
    (hline : ∀ k < lines.length, r.line (number + k) = r.line number + k) :
    Matches (fun failure failure' => failure' = failure.relocate r)
      (fun value value' => value' = value.relocate r front)
      (feedAll setting number lines assembly)
      (feedAll (setting.relocate r) (r.line number) lines (assembly.relocate r front)) := by
  -- induction on the lines: the assembly and the numbers may be any, since each line changes both
  induction lines generalizing number assembly with
  | nil => exact Matches.pure rfl
  | cons line rest ih =>
    rw [feedAll, feedAll]
    refine ((feed_relocate setting r front number line assembly).mapError ?_).bind ?_
    · intro problem problem' hproblem
      subst hproblem
      rfl
    · intro next next' htaken
      subst htaken
      -- only with another line behind this one must the numbers follow one another
      cases rest with
      | nil => exact Matches.pure rfl
      | cons second others =>
        have hnext : r.line (number + 1) = r.line number + 1 := hline 1 (by simp)
        rw [← hnext]
        refine ih (number + 1) next fun k hk => ?_
        have hlater := hline (1 + k) (by rw [List.length_cons]; omega)
        rw [hnext, Nat.add_assoc, hlater, Nat.add_assoc]

/-- The end of a document is the same at other places, when the line that opened the last page is
found again. -/
theorem finish_relocate (setting : Setting) (front : Assembly) {lines lines' : List Text}
    {assembly : Assembly}
    (hopened : ∀ page, assembly.current = some page →
      lines'[r.line page.draft.openedAt - 1]? = lines[page.draft.openedAt - 1]?) :
    Matches (fun failure failure' => failure' = failure.relocate r)
      (fun compiled compiled' => compiled' =
        ⟨⟨front.pages ++ compiled.document.pages⟩,
          front.warnings ++ compiled.warnings.map (Warning.relocate r)⟩)
      (finish setting lines assembly)
      (finish (setting.relocate r) lines' (assembly.relocate r front)) := by
  cases hcurrent : assembly.current with
  | none =>
    simp only [finish, hcurrent, current_relocate_of_none hcurrent]
    exact Matches.pure rfl
  | some page =>
    -- the text of the line that opened the page goes into the failure, so it has to be found again
    have hline : lines'[(page.renumber r.line).draft.openedAt - 1]? =
        lines[page.draft.openedAt - 1]? := hopened page hcurrent
    simp only [finish, hcurrent, current_relocate_of_some hcurrent, hline]
    refine ((closeLast_relocate setting r front page assembly).mapError ?_).bind ?_
    · intro problem problem' hproblem
      subst hproblem
      rfl
    · intro last last' hlast
      subst hlast
      exact Matches.pure rfl

end Assembly

end TutorialPages
