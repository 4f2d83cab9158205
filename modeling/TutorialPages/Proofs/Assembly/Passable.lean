import TutorialPages.Proofs.Layout.Progress

/-!
# Lines that can be taken

What has to hold of the lines of a document so that none of them is refused, stated without any run:
of a whole list of lines (`Passable`), and of one line behind others (`Passes`). The main law,
`passable_concat`, ties the two together.
-/

namespace TutorialPages

namespace Layout

/-- `END PAGE` and the commands stand on a page: the nearest page marker before them opens one. -/
def Enclosed (files : FileSource) (base : Path) (lines : List Text) : Prop :=
  ∀ earlier line later, lines = earlier ++ line :: later →
    closesPage files base line = true ∨ isCommand files base line = true →
    leavesOpen files base earlier = true

end Layout

open Layout

/-- None of the lines is refused. What the page still open at the end lacks does not matter yet. -/
structure Passable (setting : Setting) (before : List Text) : Prop where
  /-- Every directive line can be read. -/
  readable : ∀ line ∈ before, Directive.isMarked line = true →
    ∃ directive, directive? setting.files setting.base line = some directive
  /-- `END PAGE` and the commands stand on a page. -/
  enclosed : Enclosed setting.files setting.base before
  /-- On no page text follows a post-check. -/
  textFirst : ∀ body ∈ pageBodies setting.files setting.base 1 before,
    body.TextFirst setting.files setting.base
  /-- The settled fragments can be put on their pages. -/
  accepted : ∀ fragment ∈ settledFragments setting.files setting.base
    setting.options.groupCodeFences before, fragment.Accepted setting
  /-- No page that has been closed is empty. -/
  inhabited : ∀ body ∈ closedBodies setting.files setting.base 1 before,
    (body.page setting).isEmpty = false

/-- A line is not refused behind the given lines. -/
structure Passes (setting : Setting) (before : List Text) (line : Text) : Prop where
  readable : Directive.isMarked line = true →
    ∃ directive, directive? setting.files setting.base line = some directive
  enclosed : closesPage setting.files setting.base line = true ∨
      isCommand setting.files setting.base line = true →
    leavesOpen setting.files setting.base before = true
  textFirst : ∀ body, openBody? setting.files setting.base 1 before = some body →
    Directive.isMarked line = false → body.postChecks setting.files setting.base = []
  accepted : ∀ body, openBody? setting.files setting.base 1 before = some body →
    ∀ fragment ∈ body.settledBy setting.options.groupCodeFences line, fragment.Accepted setting
  inhabited : ∀ body, openBody? setting.files setting.base 1 before = some body →
    isPageMarker setting.files setting.base line = true → (body.page setting).isEmpty = false

variable {setting : Setting} {before : List Text} {line : Text}

/-- On the page that the lines leave open no text follows a post-check either. -/
theorem Passable.textFirst_of_openBody? (h : Passable setting before) {body : PageBody}
    (hopen : openBody? setting.files setting.base 1 before = some body) :
    body.TextFirst setting.files setting.base := by
  refine h.textFirst body ?_
  rw [pageBodies_eq, hopen]
  exact List.mem_append_right _ (List.mem_singleton_self body)

/-! ## One more line -/

/-- A statement about every place in a list with one more element at the end. -/
theorem forall_place_concat {α : Type} {P : List α → α → Prop} {xs : List α} {last : α} :
    (∀ earlier x later, xs ++ [last] = earlier ++ x :: later → P earlier x) ↔
      (∀ earlier x later, xs = earlier ++ x :: later → P earlier x) ∧ P xs last := by
  constructor
  · intro h
    refine ⟨fun earlier x later hxs => ?_, h xs last [] rfl⟩
    exact h earlier x (later ++ [last]) (by simp [hxs])
  · rintro ⟨hxs, hlast⟩ earlier x later hconcat
    -- the place is the last one when nothing comes later, and else lies in the list
    rcases List.eq_nil_or_concat later with rfl | ⟨later, final, rfl⟩
    · obtain ⟨rfl, hx⟩ := List.append_inj' hconcat rfl
      cases hx
      exact hlast
    · rw [List.concat_eq_append, ← List.cons_append, ← List.append_assoc] at hconcat
      exact hxs earlier x later (List.append_inj' hconcat rfl).1

theorem enclosed_concat :
    Enclosed setting.files setting.base (before ++ [line]) ↔
      Enclosed setting.files setting.base before ∧
      (closesPage setting.files setting.base line = true ∨
          isCommand setting.files setting.base line = true →
        leavesOpen setting.files setting.base before = true) :=
  forall_place_concat

theorem textFirst_pageBodies_concat :
    (∀ body ∈ pageBodies setting.files setting.base 1 (before ++ [line]),
        body.TextFirst setting.files setting.base) ↔
      (∀ body ∈ pageBodies setting.files setting.base 1 before,
        body.TextFirst setting.files setting.base) ∧
      ∀ body, openBody? setting.files setting.base 1 before = some body →
        Directive.isMarked line = false → body.postChecks setting.files setting.base = [] := by
  simp only [pageBodies_eq]
  -- a page marker is marked and brings at most an empty page, where nothing comes before text
  rcases opens_or_closes_or_not_marker setting.files setting.base line with h | h | h
  · have hmarked := isMarked_of_directive?_eq_some (opensPage_iff.mp h)
    rw [closedBodies_concat_of_marker (isPageMarker_of_opensPage h), pageBodies_eq,
      openBody?_concat_of_opensPage h]
    simp [hmarked, or_imp, forall_and, PageBody.TextFirst]
  · have hmarked := isMarked_of_directive?_eq_some (closesPage_iff.mp h)
    rw [closedBodies_concat_of_marker (isPageMarker_of_closesPage h), pageBodies_eq,
      openBody?_concat_of_closesPage h]
    simp [hmarked]
  · rw [closedBodies_concat_of_not_marker h, openBody?_concat_of_not_marker h]
    cases openBody? setting.files setting.base 1 before with
    | none => simp
    | some body => simp [or_imp, forall_and, PageBody.textFirst_concat, and_assoc]

theorem inhabited_closedBodies_concat :
    (∀ body ∈ closedBodies setting.files setting.base 1 (before ++ [line]),
        (body.page setting).isEmpty = false) ↔
      (∀ body ∈ closedBodies setting.files setting.base 1 before,
        (body.page setting).isEmpty = false) ∧
      ∀ body, openBody? setting.files setting.base 1 before = some body →
        isPageMarker setting.files setting.base line = true →
        (body.page setting).isEmpty = false := by
  cases hmarker : isPageMarker setting.files setting.base line with
  | true =>
    -- a marker closes the page before it, so the pages that it closes are one more
    rw [closedBodies_concat_of_marker hmarker, pageBodies_eq]
    cases openBody? setting.files setting.base 1 before with
    | none => simp
    | some body => simp [or_imp, forall_and]
  | false =>
    -- any other line closes no page
    rw [closedBodies_concat_of_not_marker hmarker]
    simp

/-- Nothing is asked of no line. -/
theorem passable_nil : Passable setting [] where
  readable := by simp
  enclosed := by simp [Enclosed]
  textFirst := by simp [pageBodies]
  accepted := by simp [settledFragments, closedBodies, openBody?]
  inhabited := by simp [closedBodies]

/-- Lines pass when all but the last pass and the last passes behind them. -/
theorem passable_concat :
    Passable setting (before ++ [line]) ↔ Passable setting before ∧ Passes setting before line := by
  -- the conditions are taken apart one by one; only this one has no law of its own yet
  have haccepted : (∀ fragment ∈ settledFragments setting.files setting.base
        setting.options.groupCodeFences (before ++ [line]), fragment.Accepted setting) ↔
      (∀ fragment ∈ settledFragments setting.files setting.base
        setting.options.groupCodeFences before, fragment.Accepted setting) ∧
      ∀ body, openBody? setting.files setting.base 1 before = some body →
        ∀ fragment ∈ body.settledBy setting.options.groupCodeFences line,
          fragment.Accepted setting := by
    rw [settledFragments_concat]
    cases openBody? setting.files setting.base 1 before with
    | none => simp
    | some body => simp [or_imp, forall_and]
  constructor
  · intro h
    rcases h with ⟨hreadable, henclosed, hfirst, hfragments, hinhabited⟩
    rw [enclosed_concat] at henclosed
    rw [textFirst_pageBodies_concat] at hfirst
    rw [haccepted] at hfragments
    rw [inhabited_closedBodies_concat] at hinhabited
    refine ⟨⟨fun earlier hearlier => hreadable earlier (List.mem_append_left _ hearlier),
      henclosed.1, hfirst.1, hfragments.1, hinhabited.1⟩, ?_⟩
    exact ⟨hreadable line (by simp), henclosed.2, hfirst.2, hfragments.2, hinhabited.2⟩
  · intro h
    rcases h with ⟨hbefore, hline⟩
    refine ⟨?_, enclosed_concat.mpr ⟨hbefore.enclosed, hline.enclosed⟩,
      textFirst_pageBodies_concat.mpr ⟨hbefore.textFirst, hline.textFirst⟩,
      haccepted.mpr ⟨hbefore.accepted, hline.accepted⟩,
      inhabited_closedBodies_concat.mpr ⟨hbefore.inhabited, hline.inhabited⟩⟩
    intro other hother
    -- only being readable is asked of each line by itself
    rcases List.mem_append.mp hother with hbefore' | hlast
    · exact hbefore.readable other hbefore'
    · rw [List.mem_singleton.mp hlast]
      exact hline.readable

end TutorialPages
