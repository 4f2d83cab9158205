import Mathlib.Data.List.Forall2
import TutorialPages.Assembly.Run
import TutorialPages.Proofs.Page.Draft
import TutorialPages.Proofs.Traced

/-!
# Other renderers

What a renderer returns goes into the text of the open page and nowhere else, and of this text
nothing is asked but whether it is empty. So when two renderers accept every fragment and never
return an empty text, a run with one goes like a run with the other: they read the same files, warn
alike, and fail alike.
-/

namespace TutorialPages

/-- Accepts every fragment, and never returns an empty text. -/
def Renderer.NeverEmpty (renderer : Renderer) : Prop :=
  ∀ fragment, ∃ html, renderer fragment = .ok html ∧ html ≠ []

/-! ## States that differ in texts -/

/-- Two pages differ in their texts at most. -/
structure Page.SameButText (page page' : Page) : Prop where
  preCommands : page.preCommands = page'.preCommands
  postChecks : page.postChecks = page'.postChecks
  assets : page.assets = page'.assets

/-- Two pages differ in their texts at most, and either both texts are empty or neither is. -/
structure Page.Alike (page page' : Page) : Prop extends Page.SameButText page page' where
  text : page.text = [] ↔ page'.text = []

structure OpenPage.Alike (page page' : OpenPage) : Prop where
  openedAt : page.draft.openedAt = page'.draft.openedAt
  draft : page.draft.page.Alike page'.draft.page
  tracker : page.tracker = page'.tracker
  pending : page.pending = page'.pending

structure Assembly.Alike (assembly assembly' : Assembly) : Prop where
  current : Option.Rel OpenPage.Alike assembly.current assembly'.current
  pages : List.Forall₂ Page.SameButText assembly.pages assembly'.pages
  warnings : assembly.warnings = assembly'.warnings

structure Compiled.SameButText (compiled compiled' : Compiled) : Prop where
  pages : List.Forall₂ Page.SameButText compiled.document.pages compiled'.document.pages
  warnings : compiled.warnings = compiled'.warnings

theorem Page.Alike.isEmpty_eq {page page' : Page} (h : page.Alike page') :
    page.isEmpty = page'.isEmpty := by
  have htext : page.text.isEmpty = page'.text.isEmpty := by
    rw [Bool.eq_iff_iff, List.isEmpty_iff, List.isEmpty_iff, h.text]
  rw [Page.isEmpty, Page.isEmpty, h.preCommands, h.postChecks, htext]

/-- Texts that are not empty stay so with any texts before them. -/
theorem Page.Alike.addText {page page' : Page} {html html' : Text} (h : page.Alike page')
    (hhtml : html ≠ []) (hhtml' : html' ≠ []) :
    Page.Alike { page with text := page.text ++ html }
      { page' with text := page'.text ++ html' } where
  toSameButText := ⟨h.preCommands, h.postChecks, h.assets⟩
  text := by simp [hhtml, hhtml']

theorem OpenPage.Alike.acceptsText_eq {page page' : OpenPage} (h : page.Alike page') :
    page.draft.acceptsText = page'.draft.acceptsText := by
  rw [Draft.acceptsText, Draft.acceptsText, h.draft.postChecks]

theorem OpenPage.alike_start (number : Nat) :
    (OpenPage.start number).Alike (OpenPage.start number) :=
  ⟨rfl, ⟨⟨rfl, rfl, rfl⟩, Iff.rfl⟩, rfl, rfl⟩

namespace Assembly

open Traced

theorem alike_start : Alike start start :=
  ⟨.none, .nil, rfl⟩

theorem Alike.withCurrent {assembly assembly' : Assembly} {page page' : OpenPage}
    (h : assembly.Alike assembly') (hpage : page.Alike page') :
    Alike { assembly with current := some page } { assembly' with current := some page' } :=
  ⟨.some hpage, h.pages, h.warnings⟩

variable {setting : Setting} {renderer : Renderer} {number : Nat} {line fragment : Text}
  {page page' : OpenPage} {assembly assembly' : Assembly}

/-! ## Operations that render nothing -/

theorem warn_alike (warning : Warning) (h : assembly.Alike assembly') :
    Matches Eq Alike (warn warning assembly) (warn warning assembly') := by
  refine (Matches.log ..).bind fun _ _ _ => ?_
  apply Matches.pure
  exact ⟨h.current, h.pages, by rw [h.warnings]⟩

theorem openPage_alike (number : Nat) (h : assembly.Alike assembly') :
    Matches Eq Alike (apply.openPage number assembly) (apply.openPage number assembly') := by
  refine (Matches.log ..).bind fun _ _ _ => ?_
  exact Matches.pure (h.withCurrent (OpenPage.alike_start number))

theorem skip_alike (number : Nat) (line : Text) (h : assembly.Alike assembly') :
    Matches Eq Alike (skip setting number line assembly)
      (skip { setting with renderer } number line assembly') := by
  unfold skip
  split
  · exact Matches.pure h
  · refine (Matches.log ..).bind fun _ _ _ => ?_
    exact warn_alike _ h

theorem embedImage_alike (line : Text) (h : page.Alike page') :
    Matches Eq OpenPage.Alike (embedImage setting line page)
      (embedImage { setting with renderer } line page') := by
  unfold embedImage
  split
  · refine (Matches.refl (Image.embed setting.files setting.base line)).bind ?_
    intro asset asset' hasset
    subst hasset
    -- the same image goes onto pages that had the same images
    refine Matches.pure ⟨h.openedAt, ⟨⟨h.draft.preCommands, h.draft.postChecks, ?_⟩, h.draft.text⟩,
      h.tracker, h.pending⟩
    show some (page.draft.page.assets.getD [] ++ [asset]) = _
    rw [h.draft.assets]
    rfl
  · exact Matches.pure h

/-! ## Operations that render -/

section NeverEmpty

variable (hfirst : setting.renderer.NeverEmpty) (hsecond : renderer.NeverEmpty)

include hfirst hsecond

/-- Both renderers accept the fragment, and both pages have a text behind it. -/
theorem addRendered_alike (fragment : Text) (h : page.Alike page') :
    Matches Eq OpenPage.Alike (addRendered setting fragment page)
      (addRendered { setting with renderer } fragment page') := by
  -- neither renderer fails, so what is left to compare is what the two pages do with their texts
  obtain ⟨html, hhtml, hne⟩ := hfirst fragment
  obtain ⟨html', hhtml', hne'⟩ := hsecond fragment
  have hrender : render setting fragment = pure html := by
    rw [render, hhtml]
    rfl
  have hrender' : render { setting with renderer } fragment = pure html' := by
    show Traced.ofExcept ((renderer fragment).mapError _) = _
    rw [hhtml']
    rfl
  rw [addRendered, addRendered, hrender, hrender', pure_bind, pure_bind]
  refine (Matches.ofExcept
    (R := fun draft draft' => draft.openedAt = draft'.openedAt ∧ draft.page.Alike draft'.page)
    (Draft.addText_matches h.acceptsText_eq.symm
      ⟨h.openedAt, h.draft.addText hne hne'⟩)).bind fun draft draft' hdraft => ?_
  exact Matches.pure ⟨hdraft.1, hdraft.2, h.tracker, h.pending⟩

theorem flushFence_alike (hpage : page.Alike page') (h : assembly.Alike assembly') :
    Matches Eq (fun value value' => value.1.Alike value'.1 ∧ value.2.Alike value'.2)
      (flushFence setting page assembly)
      (flushFence { setting with renderer } page' assembly') := by
  have hpending' := hpage.pending
  -- where a block waits in one run, the same one waits in the other
  cases hpending : page.pending with
  | none =>
    rw [hpending] at hpending'
    simp only [flushFence, hpending, ← hpending']
    exact Matches.pure ⟨hpage, h⟩
  | some pending =>
    rw [hpending] at hpending'
    simp only [flushFence, hpending, ← hpending']
    have hcleared : OpenPage.Alike { page with tracker := .start, pending := none }
        { page' with tracker := .start, pending := none } :=
      ⟨hpage.openedAt, hpage.draft, rfl, rfl⟩
    refine (addRendered_alike hfirst hsecond pending.source hcleared).bind ?_
    intro flushed flushed' hflushed
    refine (warn_alike _ h).bind ?_
    intro warned warned' hwarned
    exact Matches.pure ⟨hflushed, hwarned⟩

/-- A page is empty in both runs or in neither. -/
theorem closePage_alike (hpage : page.Alike page') (h : assembly.Alike assembly') :
    Matches Eq Alike (closePage setting page assembly)
      (closePage { setting with renderer } page' assembly') := by
  refine (flushFence_alike hfirst hsecond hpage h).bind ?_
  rintro ⟨page, assembly⟩ ⟨page', assembly'⟩ ⟨hpage, h⟩
  have hempty : page.draft.page.isEmpty = page'.draft.page.isEmpty := hpage.draft.isEmpty_eq
  simp only [Draft.finish, ← hempty]
  cases page.draft.page.isEmpty with
  | true => exact Matches.fail rfl
  | false =>
    -- what is finished differs at most in its text
    refine (Matches.ofExcept (.ok hpage.draft)).bind fun finished finished' hfinished => ?_
    refine (Matches.log ..).bind fun _ _ _ => ?_
    apply Matches.pure
    exact ⟨.none, List.rel_append h.pages (.cons hfinished.toSameButText .nil), h.warnings⟩

theorem apply_alike (number : Nat) (directive : Directive) (h : assembly.Alike assembly') :
    Matches Eq Alike (apply setting number directive assembly)
      (apply { setting with renderer } number directive assembly') := by
  -- the open page is there in both runs or in neither
  obtain ⟨current, pages, warnings⟩ := assembly
  obtain ⟨current', pages', warnings'⟩ := assembly'
  have hcurrent := h.current
  simp only at hcurrent
  cases hcurrent with
  | none =>
    cases directive with
    | startPage => exact openPage_alike number h
    | endPage => exact Matches.fail rfl
    | pre command => exact Matches.fail rfl
    | post check => exact Matches.fail rfl
  | some hpage =>
    cases directive with
    | startPage =>
      simp only [apply, hpage.openedAt]
      refine (warn_alike _ h).bind fun warned warned' hwarned => ?_
      refine (closePage_alike hfirst hsecond hpage hwarned).bind fun closed closed' hclosed => ?_
      exact openPage_alike number hclosed
    | endPage => exact closePage_alike hfirst hsecond hpage h
    -- a command or check is added behind equal lists
    | pre command =>
      apply Matches.pure
      refine h.withCurrent ⟨hpage.openedAt, ⟨⟨?_, hpage.draft.postChecks, hpage.draft.assets⟩,
        hpage.draft.text⟩, hpage.tracker, hpage.pending⟩
      exact congrArg (· ++ [command]) hpage.draft.preCommands
    | post check =>
      apply Matches.pure
      refine h.withCurrent ⟨hpage.openedAt, ⟨⟨hpage.draft.preCommands, ?_, hpage.draft.assets⟩,
        hpage.draft.text⟩, hpage.tracker, hpage.pending⟩
      exact congrArg (· ++ [check]) hpage.draft.postChecks

theorem feedDirective_alike (number : Nat) (line : Text) (h : assembly.Alike assembly') :
    Matches Eq Alike (feedDirective setting number line assembly)
      (feedDirective { setting with renderer } number line assembly') := by
  refine (Matches.refl (Directive.read setting.files setting.base line)).bind ?_
  intro directive directive' hdirective
  subst hdirective
  exact apply_alike hfirst hsecond number directive h

theorem addLine_alike (number : Nat) (line : Text) (h : page.Alike page') :
    Matches Eq OpenPage.Alike (addLine setting number line page)
      (addLine { setting with renderer } number line page') := by
  refine (embedImage_alike line h).bind fun embedded embedded' hembedded => ?_
  refine (Matches.log ..).bind fun _ _ _ => ?_
  exact addRendered_alike hfirst hsecond line hembedded

theorem feedText_alike (number : Nat) (line : Text) (h : page.Alike page') :
    Matches Eq OpenPage.Alike (feedText setting number line page)
      (feedText { setting with renderer } number line page') := by
  unfold feedText
  rw [← h.acceptsText_eq, ← h.tracker]
  split
  · exact Matches.fail rfl
  · split
    · exact Matches.pure h
    · split
      · split
        · exact Matches.pure ⟨h.openedAt, h.draft, rfl, rfl⟩
        · exact addLine_alike hfirst hsecond number line ⟨h.openedAt, h.draft, rfl, h.pending⟩
      · exact addLine_alike hfirst hsecond number line h

theorem feedBlock_alike (line : Text) (pending : PendingFence) (h : page.Alike page') :
    Matches Eq OpenPage.Alike (feedBlock setting line page pending)
      (feedBlock { setting with renderer } line page' pending) := by
  unfold feedBlock
  rw [← h.tracker]
  dsimp only
  split
  · exact addRendered_alike hfirst hsecond _ ⟨h.openedAt, h.draft, rfl, rfl⟩
  · exact Matches.pure ⟨h.openedAt, h.draft, rfl, rfl⟩

/-- One step: a line does the same in both runs. -/
theorem feed_alike (number : Nat) (line : Text) (h : assembly.Alike assembly') :
    Matches Eq Alike (feed setting number line assembly)
      (feed { setting with renderer } number line assembly') := by
  -- the cases are those of the step, and both runs are in the same one
  obtain ⟨current, pages, warnings⟩ := assembly
  obtain ⟨current', pages', warnings'⟩ := assembly'
  have hcurrent := h.current
  simp only at hcurrent
  cases hcurrent with
  | none =>
    unfold feed
    dsimp only
    split
    · exact feedDirective_alike hfirst hsecond number line h
    · exact skip_alike number line h
  | @some page page' hpage =>
    unfold feed
    dsimp only
    split
    · refine (flushFence_alike hfirst hsecond hpage h).bind ?_
      rintro ⟨flushed, rest⟩ ⟨flushed', rest'⟩ ⟨hflushed, hrest⟩
      exact feedDirective_alike hfirst hsecond number line (hrest.withCurrent hflushed)
    · rw [← hpage.pending]
      cases page.pending with
      | none =>
        refine (feedText_alike hfirst hsecond number line hpage).bind fun taken taken' htaken => ?_
        exact Matches.pure (h.withCurrent htaken)
      | some pending =>
        have hblock := feedBlock_alike hfirst hsecond line pending hpage
        refine hblock.bind fun taken taken' htaken => ?_
        exact Matches.pure (h.withCurrent htaken)

/-- All steps, one after the other. -/
theorem feedAll_alike (number : Nat) (lines : List Text) (h : assembly.Alike assembly') :
    Matches Eq Alike (feedAll setting number lines assembly)
      (feedAll { setting with renderer } number lines assembly') := by
  induction lines generalizing number assembly assembly' with
  | nil => exact Matches.pure h
  | cons line rest ih =>
    -- a problem is given the same place in both runs
    have hstep := (feed_alike hfirst hsecond number line h).mapError (F := Eq)
      fun problem problem' hproblem => congrArg (failureAt setting number line) hproblem
    refine hstep.bind fun next next' hnext => ?_
    exact ih (number + 1) hnext

theorem closeLast_alike (hpage : page.Alike page') (h : assembly.Alike assembly') :
    Matches Eq Alike (closeLast setting page assembly)
      (closeLast { setting with renderer } page' assembly') := by
  unfold closeLast
  rw [← hpage.openedAt]
  split
  · exact Matches.fail rfl
  · refine (warn_alike _ h).bind fun warned warned' hwarned => ?_
    exact closePage_alike hfirst hsecond hpage hwarned

theorem finish_alike (lines : List Text) (h : assembly.Alike assembly') :
    Matches Eq Compiled.SameButText (finish setting lines assembly)
      (finish { setting with renderer } lines assembly') := by
  -- the page that is closed last is one of the pages, so the document is read off in the same way
  have hlast : ∀ {last last' : Assembly}, last.Alike last' →
      Matches (Eq : Failure → Failure → Prop) Compiled.SameButText
        (pure ⟨⟨last.pages⟩, last.warnings⟩) (pure ⟨⟨last'.pages⟩, last'.warnings⟩) :=
    fun hlast => Matches.pure ⟨hlast.pages, hlast.warnings⟩
  obtain ⟨current, pages, warnings⟩ := assembly
  obtain ⟨current', pages', warnings'⟩ := assembly'
  have hcurrent := h.current
  simp only at hcurrent
  cases hcurrent with
  | none => exact hlast h
  | some hpage =>
    simp only [finish, hpage.openedAt]
    refine Matches.bind ((closeLast_alike hfirst hsecond hpage h).mapError ?_)
      fun last last' h => hlast h
    intro problem problem' hproblem
    exact congrArg (failureAt setting _ _) hproblem

theorem run_alike (lines : List Text) :
    Matches Eq Compiled.SameButText (run setting lines) (run { setting with renderer } lines) := by
  refine (feedAll_alike hfirst hsecond 1 lines alike_start).bind fun last last' hlast => ?_
  exact finish_alike hfirst hsecond lines hlast

end NeverEmpty

end Assembly

end TutorialPages
