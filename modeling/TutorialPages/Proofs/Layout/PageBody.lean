import Mathlib.Data.List.Induction
import Mathlib.Data.List.TakeWhile
import TutorialPages.Directive.Reader

/-!
# The pages of a list of lines

Where the pages of a document lie is a matter of its directive lines alone: a page begins behind a
`START PAGE` and reaches to the next page marker. Nothing is said here about what becomes of the
lines of a page.

`pageBodies` gives the pages of a whole list of lines. Of a list of lines that more lines may
follow, `openBody?` is the page that they would still belong to, and `closedBodies` are the others.
-/

namespace TutorialPages

/-- The pre-command of a directive. -/
def Directive.preCommand? : Directive → Option PreCommand
  | .pre command => some command
  | _ => none

/-- The post-check of a directive. -/
def Directive.postCheck? : Directive → Option PostCheck
  | .post check => some check
  | _ => none

/-- The lines of a page, without its markers. -/
structure PageBody where
  /-- The number of the `START PAGE` line. -/
  openedAt : Nat
  lines : List Text
  deriving DecidableEq, Repr

/-- The page with one more line. -/
def PageBody.concat (body : PageBody) (line : Text) : PageBody :=
  { body with lines := body.lines ++ [line] }

namespace Layout

variable (files : FileSource) (base : Path)

/-! ## Directive lines -/

/-- The directive that a line states: the line has the marker and can be read. -/
def directive? (line : Text) : Option Directive :=
  if Directive.isMarked line then (Directive.read files base line).outcome.toOption else none

/-- Whether a line is a `START PAGE`. -/
def opensPage (line : Text) : Bool :=
  directive? files base line = some .startPage

/-- Whether a line is an `END PAGE`. -/
def closesPage (line : Text) : Bool :=
  directive? files base line = some .endPage

/-- Whether a line is a page marker. -/
def isPageMarker (line : Text) : Bool :=
  opensPage files base line || closesPage files base line

/-- Whether a line is a command for the page that it stands on. -/
def isCommand (line : Text) : Bool :=
  ((directive? files base line).bind Directive.method?).isSome

/-- Whether a line is a post-check. -/
def isPostCheck (line : Text) : Bool :=
  ((directive? files base line).bind Directive.postCheck?).isSome

/-- The last page marker among the lines before a place. -/
def nearestMarker? (before : List Text) : Option Text :=
  (before.filter (isPageMarker files base)).getLast?

/-- Whether the lines before a place leave a page open: their last page marker opens one. -/
def leavesOpen (before : List Text) : Bool :=
  (nearestMarker? files base before).any (opensPage files base)

/-! ## Pages -/

/-- The pages of a list of lines, of which the first has the given number. -/
def pageBodies (number : Nat) : List Text → List PageBody
  | [] => []
  | line :: rest =>
    if opensPage files base line then
      ⟨number, rest.takeWhile fun line => !isPageMarker files base line⟩ ::
        pageBodies (number + 1) rest
    else pageBodies (number + 1) rest

/-- The pages that end before the end of the lines. -/
def closedBodies (number : Nat) : List Text → List PageBody
  | [] => []
  | line :: rest =>
    if opensPage files base line ∧ rest.any (isPageMarker files base) then
      ⟨number, rest.takeWhile fun line => !isPageMarker files base line⟩ ::
        closedBodies (number + 1) rest
    else closedBodies (number + 1) rest

/-- The page that reaches to the end of the lines. -/
def openBody? (number : Nat) : List Text → Option PageBody
  | [] => none
  | line :: rest =>
    if opensPage files base line ∧ ¬rest.any (isPageMarker files base) then some ⟨number, rest⟩
    else openBody? (number + 1) rest

variable {files base}

/-! ## What kind of line it is -/

theorem directive?_of_not_isMarked {line : Text} (h : Directive.isMarked line = false) :
    directive? files base line = none := by
  simp [directive?, h]

theorem isMarked_of_directive?_eq_some {line : Text} {directive : Directive}
    (h : directive? files base line = some directive) : Directive.isMarked line = true := by
  cases hmarked : Directive.isMarked line with
  | true => rfl
  | false =>
    rw [directive?_of_not_isMarked hmarked] at h
    cases h

/-- A marked line states exactly what can be read from it. -/
theorem directive?_eq_some_iff {line : Text} (h : Directive.isMarked line = true)
    {directive : Directive} :
    directive? files base line = some directive ↔
      (Directive.read files base line).outcome = .ok directive := by
  rw [directive?, if_pos h]
  cases (Directive.read files base line).outcome with
  | ok value => simp [Except.toOption]
  | error problem => simp [Except.toOption]

theorem opensPage_iff {line : Text} :
    opensPage files base line = true ↔ directive? files base line = some .startPage := by
  simp [opensPage]

theorem closesPage_iff {line : Text} :
    closesPage files base line = true ↔ directive? files base line = some .endPage := by
  simp [closesPage]

/-- A line opens a page, closes one, or is no page marker. -/
theorem opens_or_closes_or_not_marker (files : FileSource) (base : Path) (line : Text) :
    opensPage files base line = true ∨ closesPage files base line = true ∨
      isPageMarker files base line = false := by
  cases hopens : opensPage files base line with
  | true => exact .inl rfl
  | false =>
    cases hcloses : closesPage files base line with
    | true => exact .inr (.inl rfl)
    | false => exact .inr (.inr (by simp [isPageMarker, hopens, hcloses]))

theorem isPageMarker_of_opensPage {line : Text} (h : opensPage files base line = true) :
    isPageMarker files base line = true := by
  simp [isPageMarker, h]

theorem isPageMarker_of_closesPage {line : Text} (h : closesPage files base line = true) :
    isPageMarker files base line = true := by
  simp [isPageMarker, h]

theorem opensPage_of_not_marker {line : Text} (h : isPageMarker files base line = false) :
    opensPage files base line = false :=
  (Bool.or_eq_false_iff.mp h).1

theorem opensPage_of_closesPage {line : Text} (h : closesPage files base line = true) :
    opensPage files base line = false := by
  rw [closesPage_iff] at h
  simp [opensPage, h]

/-- Text is no page marker. -/
theorem isPageMarker_of_not_isMarked (files : FileSource) (base : Path) {line : Text}
    (h : Directive.isMarked line = false) : isPageMarker files base line = false := by
  simp [isPageMarker, opensPage, closesPage, directive?_of_not_isMarked h]

/-! ## Lines without page markers -/

section NoMarker

variable {lines : List Text} (h : lines.any (isPageMarker files base) = false)

include h

theorem pageBodies_of_no_marker (number : Nat) : pageBodies files base number lines = [] := by
  induction lines generalizing number with
  | nil => rfl
  | cons line rest ih =>
    simp only [List.any_cons, Bool.or_eq_false_iff] at h
    simp [pageBodies, opensPage_of_not_marker h.1, ih h.2]

theorem takeWhile_of_no_marker :
    lines.takeWhile (fun line => !isPageMarker files base line) = lines := by
  simpa using h

end NoMarker

/-! ## One page after the other -/

/-- Only the last page can be open. -/
theorem pageBodies_eq (number : Nat) (lines : List Text) :
    pageBodies files base number lines =
      closedBodies files base number lines ++ (openBody? files base number lines).toList := by
  -- only at a `START PAGE` do the three differ, and there it counts whether a marker follows
  induction lines generalizing number with
  | nil => rfl
  | cons line rest ih =>
    cases hopens : opensPage files base line with
    | false => simp [pageBodies, closedBodies, openBody?, hopens, ih]
    | true =>
      cases hmarker : rest.any (isPageMarker files base) with
      | true => simp only [pageBodies, closedBodies, openBody?, hopens, hmarker, ih]; simp
      | false =>
        -- the rest has no page of its own, so none of its pages is closed either
        have hrest := pageBodies_of_no_marker hmarker (number + 1)
        have hclosed : closedBodies files base (number + 1) rest = [] :=
          (List.append_eq_nil_iff.mp ((ih (number + 1)).symm.trans hrest)).1
        simp only [pageBodies, closedBodies, openBody?, hopens, hmarker, hrest, hclosed,
          takeWhile_of_no_marker hmarker]
        simp

/-- A page that has been closed is not touched by what follows. -/
theorem takeWhile_append_of_marker {lines : List Text}
    (h : lines.any (isPageMarker files base) = true) (after : List Text) :
    (lines ++ after).takeWhile (fun line => !isPageMarker files base line) =
      lines.takeWhile fun line => !isPageMarker files base line := by
  induction lines with
  | nil => simp at h
  | cons line rest ih =>
    cases hline : isPageMarker files base line with
    | true => simp [hline]
    | false =>
      rw [List.any_cons, hline, Bool.false_or] at h
      simp [hline, ih h]

/-- A page ends before the next page marker. -/
theorem takeWhile_concat_marker {line : Text} (h : isPageMarker files base line = true)
    (lines : List Text) :
    (lines ++ [line]).takeWhile (fun line => !isPageMarker files base line) =
      lines.takeWhile fun line => !isPageMarker files base line := by
  cases hmarker : lines.any (isPageMarker files base) with
  | true => exact takeWhile_append_of_marker hmarker [line]
  | false =>
    -- no marker among the lines, so the new one is where the page ends
    rw [takeWhile_of_no_marker hmarker, List.takeWhile_append_of_pos (by simpa using hmarker)]
    simp [h]

/-- A page marker closes the open page. -/
theorem closedBodies_concat_of_marker {line : Text} (h : isPageMarker files base line = true)
    (number : Nat) (before : List Text) :
    closedBodies files base number (before ++ [line]) = pageBodies files base number before := by
  -- behind every `START PAGE` of the lines there is a page marker now
  induction before generalizing number with
  | nil => simp [closedBodies, pageBodies]
  | cons first rest ih =>
    simp [closedBodies, pageBodies, h, ih, takeWhile_concat_marker h]

/-- Any other line leaves the closed pages as they are. -/
theorem closedBodies_concat_of_not_marker {line : Text} (h : isPageMarker files base line = false)
    (number : Nat) (before : List Text) :
    closedBodies files base number (before ++ [line]) = closedBodies files base number before := by
  induction before generalizing number with
  | nil => simp [closedBodies]
  | cons first rest ih =>
    -- a page that is closed already does not reach the new line
    cases hmarker : rest.any (isPageMarker files base) with
    | false => simp [closedBodies, h, ih, hmarker]
    | true => simp [closedBodies, h, ih, hmarker, takeWhile_append_of_marker hmarker]

/-- `START PAGE` opens an empty page. -/
theorem openBody?_concat_of_opensPage {line : Text} (h : opensPage files base line = true)
    (number : Nat) (before : List Text) :
    openBody? files base number (before ++ [line]) = some ⟨number + before.length, []⟩ := by
  have hmarker := isPageMarker_of_opensPage h
  induction before generalizing number with
  | nil => simp [openBody?, h]
  -- the first line may open a page itself, but the marker at the end closes it and opens the last
  | cons first rest ih =>
    simp [openBody?, hmarker, ih, Nat.add_assoc, Nat.add_comm 1]

/-- After `END PAGE` no page is open. -/
theorem openBody?_concat_of_closesPage {line : Text} (h : closesPage files base line = true)
    (number : Nat) (before : List Text) :
    openBody? files base number (before ++ [line]) = none := by
  have hmarker := isPageMarker_of_closesPage h
  induction before generalizing number with
  | nil => simp [openBody?, opensPage_of_closesPage h]
  -- whatever the first line opens is closed by the marker at the end
  | cons first rest ih => simp [openBody?, hmarker, ih]

/-- Any other line belongs to the open page. -/
theorem openBody?_concat_of_not_marker {line : Text} (h : isPageMarker files base line = false)
    (number : Nat) (before : List Text) :
    openBody? files base number (before ++ [line]) =
      (openBody? files base number before).map (PageBody.concat · line) := by
  induction before generalizing number with
  | nil => simp [openBody?, opensPage_of_not_marker h]
  | cons first rest ih =>
    simp only [openBody?, List.cons_append, List.any_append, List.any_cons, h, List.any_nil,
      Bool.or_false]
    -- the condition on the rest is the same with the line as without
    split
    · simp [PageBody.concat]
    · exact ih _

/-- The lines of the open page are the last ones. -/
theorem openBody?_number {number : Nat} {before : List Text} {body : PageBody}
    (h : openBody? files base number before = some body) :
    number ≤ body.openedAt ∧ body.openedAt + 1 + body.lines.length = number + before.length := by
  induction before generalizing number with
  | nil => simp [openBody?] at h
  | cons first rest ih =>
    rw [openBody?] at h
    -- the first line has opened the page, and the rest are its lines
    split at h
    · cases h
      simp only [List.length_cons]
      omega
    · have hrest := ih h
      simp only [List.length_cons]
      omega

/-- Behind the `START PAGE` of the open page there are only its lines, none of which is a page
marker. -/
theorem openBody?_split {number : Nat} {before : List Text} {body : PageBody}
    (h : openBody? files base number before = some body) :
    ∃ earlier line, before = earlier ++ line :: body.lines ∧
      body.openedAt = number + earlier.length ∧ opensPage files base line = true ∧
      body.lines.any (isPageMarker files base) = false := by
  induction before generalizing number with
  | nil => cases h
  | cons first rest ih =>
    rw [openBody?] at h
    split at h
    -- the open page begins with the first line, or further down
    · next hfirst =>
      cases h
      exact ⟨[], first, rfl, rfl, hfirst.1, by simpa using hfirst.2⟩
    · obtain ⟨earlier, line, rfl, hopened, hopens, hmarker⟩ := ih h
      refine ⟨first :: earlier, line, rfl, ?_, hopens, hmarker⟩
      rw [hopened, List.length_cons]
      omega

/-! ## The last `START PAGE` -/

/-- The line is the last `START PAGE` among the lines, and the number is its place there. -/
def LastStart (files : FileSource) (base : Path) (lines : List Text) (number : Nat)
    (line : Text) : Prop :=
  ∃ before after, lines = before ++ line :: after ∧ number = before.length + 1 ∧
    opensPage files base line = true ∧ ∀ later ∈ after, opensPage files base later = false

theorem LastStart.getElem? {lines : List Text} {number : Nat} {line : Text}
    (h : LastStart files base lines number line) : lines[number - 1]? = some line := by
  obtain ⟨before, after, rfl, rfl, -⟩ := h
  simp

theorem LastStart.bounds {lines : List Text} {number : Nat} {line : Text}
    (h : LastStart files base lines number line) : 1 ≤ number ∧ number ≤ lines.length := by
  obtain ⟨before, after, rfl, rfl, -⟩ := h
  rw [List.length_append, List.length_cons]
  omega

/-- The open page has been opened by the last `START PAGE`. -/
theorem lastStart_of_openBody? {before : List Text} {body : PageBody}
    (h : openBody? files base 1 before = some body) :
    ∃ line, LastStart files base before body.openedAt line := by
  obtain ⟨earlier, line, hbefore, hopened, hopens, hmarker⟩ := openBody?_split h
  refine ⟨line, earlier, body.lines, hbefore, by omega, hopens, fun later hlater => ?_⟩
  rw [List.any_eq_false] at hmarker
  exact opensPage_of_not_marker (Bool.eq_false_iff.mpr (hmarker later hlater))

/-! ## The nearest page marker -/

theorem nearestMarker?_concat (before : List Text) (line : Text) :
    nearestMarker? files base (before ++ [line]) =
      if isPageMarker files base line then some line else nearestMarker? files base before := by
  simp only [nearestMarker?, List.filter_append, List.filter_cons, List.filter_nil]
  split
  · simp
  · simp

/-- A page is open exactly when the nearest page marker opens one. -/
theorem leavesOpen_eq (number : Nat) (before : List Text) :
    leavesOpen files base before = (openBody? files base number before).isSome := by
  -- the nearest marker is found from the end, so the lines are taken from the end
  induction before using List.reverseRecOn with
  | nil => rfl
  | append_singleton before line ih =>
    rw [leavesOpen, nearestMarker?_concat]
    -- the last line is the nearest marker, or leaves the one before it in place
    rcases opens_or_closes_or_not_marker files base line with h | h | h
    · simp [openBody?_concat_of_opensPage h, isPageMarker_of_opensPage h, h]
    · simp [openBody?_concat_of_closesPage h, isPageMarker_of_closesPage h,
        opensPage_of_closesPage h]
    · simpa [openBody?_concat_of_not_marker h, h, leavesOpen] using ih

/-- There is one page for each `START PAGE`. -/
theorem length_pageBodies (number : Nat) (lines : List Text) :
    (pageBodies files base number lines).length = lines.countP (opensPage files base) := by
  induction lines generalizing number with
  | nil => rfl
  | cons line rest ih =>
    cases hopens : opensPage files base line with
    | true => simp [pageBodies, hopens, ih]
    | false => simp [pageBodies, hopens, ih]

end Layout

end TutorialPages
