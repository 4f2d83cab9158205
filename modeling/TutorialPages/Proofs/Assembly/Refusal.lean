import TutorialPages.Proofs.Assembly.Success
import TutorialPages.Proofs.Directive.Refusal

/-!
# What the operations of an assembly refuse

For the operations on an assembly: what they can fail with. Reading a directive has nothing to do
with text. Closing a page has two problems of its own, an empty page and a block that the renderer
refuses; where the renderer refuses something, it is known what. That text follows a post-check is
said of a line of text alone (`feed_failsOnly`), and before anything is done with that line
(`feed_of_textAfterPostCheck`).
-/

namespace TutorialPages

open Traced

/-- A fragment cannot be put on a page: the renderer refuses it, or a post-check comes before it. -/
def Problem.IsOfText (problem : Problem) : Prop :=
  problem = .textAfterPostCheck ∨ ∃ error, problem = .refused error

theorem Problem.ne_of_not_isOfText {problem : Problem} (h : ¬problem.IsOfText) :
    problem ≠ .textAfterPostCheck := by
  rintro rfl
  exact h (.inl rfl)

theorem Problem.isOfText_refused (error : RenderError) : (Problem.refused error).IsOfText :=
  .inr ⟨error, rfl⟩

/-! ## Reading a directive -/

variable {problem : Problem}

/-- The arguments of a method have nothing to do with text. -/
theorem Problem.IsOfArguments.not_isOfText (h : problem.IsOfArguments) : ¬problem.IsOfText := by
  rintro (rfl | ⟨error, rfl⟩)
  · exact h
  · exact h

/-- What keeps a directive from being read has nothing to do with text. -/
theorem Directive.read_failsOnly {files : FileSource} {base : Path} (line : Text) :
    (read files base line).FailsOnly (¬·.IsOfText) := by
  have hunknown : ∀ given, ¬(Problem.unknownDirective given).IsOfText := by
    simp [Problem.IsOfText]
  -- the problems of a directive are its words, its arguments and its file, and none is about text
  unfold read
  dsimp only
  split
  · exact FailsOnly.pure _
  · split
    · exact FailsOnly.pure _
    · cases hwords : Text.words (body line) with
      | nil => exact FailsOnly.fail (hunknown _)
      | cons word arguments =>
        cases hmethod : Method.ofWord? word with
        | none =>
          simp only [ofWords, hmethod]
          exact FailsOnly.fail (hunknown _)
        | some method =>
          exact (ofWords_failsOnly hmethod).mono fun _ h => h.not_isOfText

theorem Image.embed_failsOnly {files : FileSource} {base : Path} (line : Text) :
    (Image.embed files base line).FailsOnly (¬·.IsOfText) := by
  unfold Image.embed
  split
  · exact FailsOnly.fail (by simp [Image.malformed, Problem.IsOfText])
  · refine FailsOnly.bind (FailsOnly.emit _) fun _ _ => ?_
    split
    · exact FailsOnly.fail (by simp [Problem.IsOfText])
    · exact (FailsOnly.log _ _).bind fun _ _ => FailsOnly.pure _

/-! ## Closing a page -/

/-- The renderer refuses the fragment, and this is the problem. -/
def Problem.IsOfRendering (setting : Setting) (fragment : Text) (problem : Problem) : Prop :=
  ∃ error, setting.renderer fragment = .error error ∧ problem = .refused error

/-- The problems of closing a page: it is empty, or the renderer refuses the block that waits. -/
def Problem.IsOfClosing (problem : Problem) : Prop :=
  problem = .emptyPage ∨ ∃ error, problem = .refused error

theorem Problem.IsOfRendering.ne {setting : Setting} {fragment : Text}
    (h : problem.IsOfRendering setting fragment) : problem ≠ .textAfterPostCheck := by
  obtain ⟨error, -, rfl⟩ := h
  intro hproblem
  cases hproblem

theorem Problem.IsOfRendering.isOfClosing {setting : Setting} {fragment : Text}
    (h : problem.IsOfRendering setting fragment) : problem.IsOfClosing := by
  obtain ⟨error, -, hproblem⟩ := h
  exact .inr ⟨error, hproblem⟩

theorem Problem.IsOfRendering.eq_error {setting : Setting} {fragment : Text} {error : RenderError}
    (h : (Problem.refused error).IsOfRendering setting fragment) :
    setting.renderer fragment = .error error := by
  obtain ⟨other, hrender, hproblem⟩ := h
  cases hproblem
  exact hrender

theorem Problem.IsOfClosing.ne (h : problem.IsOfClosing) : problem ≠ .textAfterPostCheck := by
  rintro rfl
  rcases h with h | ⟨error, h⟩
  · cases h
  · cases h

namespace Assembly

variable {setting : Setting} {number : Nat} {line : Text} {page : OpenPage} {assembly : Assembly}

/-- Reporting a finding never fails. -/
theorem warn_failsOnly {P : Problem → Prop} (warning : Warning) :
    (warn warning assembly).FailsOnly P :=
  (FailsOnly.log _ _).bind fun _ _ => FailsOnly.pure _

/-- When the block has been put on the page, none waits there any more. -/
theorem pending_of_flushFence_eq_ok {flushed : OpenPage × Assembly}
    (h : (flushFence setting page assembly).outcome = .ok flushed) : flushed.1.pending = none := by
  cases hpending : page.pending with
  | none =>
    -- without a block the page is given back as it was
    rw [flushFence_of_none hpending, outcome_pure_eq_ok] at h
    rw [h]
    exact hpending
  | some pending =>
    obtain ⟨html, -, -, rfl⟩ := (flushFence_of_some hpending).mp h
    rfl

theorem render_failsOnly (fragment : Text) :
    (render setting fragment).FailsOnly (·.IsOfRendering setting fragment) := by
  -- the only problem is the one that the renderer gives
  intro problem hproblem
  rw [render, outcome_ofExcept] at hproblem
  cases hrender : setting.renderer fragment with
  | ok html =>
    rw [hrender] at hproblem
    cases hproblem
  | error error =>
    rw [hrender] at hproblem
    cases hproblem
    exact ⟨error, hrender, rfl⟩

/-- Where there is no post-check, a fragment is refused by the renderer or by nobody. -/
theorem addRendered_failsOnly (fragment : Text) (h : page.draft.page.postChecks = []) :
    (addRendered setting fragment page).FailsOnly (·.IsOfRendering setting fragment) := by
  refine (render_failsOnly fragment).bind fun html _ => ?_
  -- where there is no check the page takes what has been rendered
  have haccepts : page.draft.acceptsText = true := Draft.acceptsText_iff.mpr h
  rw [Draft.addText_eq, if_pos haccepts]
  exact FailsOnly.pure _

/-- Where a block waits there is no post-check, so it is put on the page unless it is refused. -/
theorem flushFence_failsOnly
    (hwaits : page.pending.isSome = true → page.draft.page.postChecks = []) :
    (flushFence setting page assembly).FailsOnly fun problem =>
      ∃ pending, page.pending = some pending ∧ problem.IsOfRendering setting pending.source := by
  cases hpending : page.pending with
  | none =>
    rw [flushFence_of_none hpending]
    exact FailsOnly.pure _
  | some pending =>
    -- the block waits, so there is no check and only the renderer can refuse it
    have hchecks := hwaits (by rw [hpending]; rfl)
    have hadd : (addRendered setting pending.source
        { page with tracker := .start, pending := none }).FailsOnly
          (·.IsOfRendering setting pending.source) :=
      addRendered_failsOnly _ hchecks
    simp only [flushFence, hpending]
    refine (hadd.mono fun _ hproblem => ⟨pending, rfl, hproblem⟩).bind fun _ _ => ?_
    exact (warn_failsOnly _).bind fun _ _ => FailsOnly.pure _

theorem closePage_failsOnly
    (hwaits : page.pending.isSome = true → page.draft.page.postChecks = []) :
    (closePage setting page assembly).FailsOnly fun problem =>
      problem = .emptyPage ∨
        ∃ pending, page.pending = some pending ∧ problem.IsOfRendering setting pending.source := by
  refine ((flushFence_failsOnly hwaits).mono fun _ => .inr).bind fun flushed _ =>
    FailsOnly.bind ?_ fun _ _ => ?_
  · intro problem hproblem
    -- closing a page that has been settled fails when the page is empty
    rw [outcome_ofExcept, Draft.finish] at hproblem
    split at hproblem
    · cases hproblem
      exact .inl rfl
    · cases hproblem
  · exact (FailsOnly.log _ _).bind fun _ _ => FailsOnly.pure _

/-- At the end of the document an open page is refused as such where it may not stay open, and
elsewhere closing it is all that can fail. -/
theorem closeLast_failsOnly
    (hwaits : page.pending.isSome = true → page.draft.page.postChecks = []) :
    (closeLast setting page assembly).FailsOnly fun problem =>
      if setting.options.allowUnterminatedPage then
        problem = .emptyPage ∨
          ∃ pending, page.pending = some pending ∧ problem.IsOfRendering setting pending.source
      else problem = .unterminatedPage := by
  unfold closeLast
  cases setting.options.allowUnterminatedPage with
  | true => exact (warn_failsOnly _).bind fun _ _ => closePage_failsOnly hwaits
  | false => exact FailsOnly.fail rfl

/-! ## Lines -/

/-- A directive for a page on which no block waits has nothing to do with text. -/
theorem apply_failsOnly (directive : Directive)
    (hsettled : ∀ page, assembly.current = some page → page.pending = none) :
    (apply setting number directive assembly).FailsOnly (¬·.IsOfText) := by
  cases hcurrent : assembly.current with
  | none =>
    cases directive with
    | startPage =>
      simp only [apply, hcurrent]
      exact (FailsOnly.log _ _).bind fun _ _ => FailsOnly.pure _
    | endPage | pre command | post check =>
      simp only [apply, hcurrent]
      exact FailsOnly.fail (by simp [Problem.IsOfText])
  | some page =>
    have hnone := hsettled page hcurrent
    -- no block waits, so closing the page renders nothing
    have hclose : ∀ given, (closePage setting page given).FailsOnly (¬·.IsOfText) := by
      intro given
      refine (closePage_failsOnly (by simp [hnone])).mono ?_
      rintro problem (rfl | ⟨pending, hpending, -⟩)
      · simp [Problem.IsOfText]
      · rw [hnone] at hpending
        cases hpending
    cases directive with
    | startPage =>
      simp only [apply, hcurrent]
      refine (warn_failsOnly _).bind fun _ _ => (hclose _).bind fun _ _ => ?_
      exact (FailsOnly.log _ _).bind fun _ _ => FailsOnly.pure _
    | endPage =>
      simp only [apply, hcurrent]
      exact hclose assembly
    | pre command | post check =>
      simp only [apply, hcurrent]
      exact FailsOnly.pure _

theorem feedDirective_failsOnly
    (hsettled : ∀ page, assembly.current = some page → page.pending = none) :
    (feedDirective setting number line assembly).FailsOnly (¬·.IsOfText) :=
  (Directive.read_failsOnly line).bind fun directive _ => apply_failsOnly directive hsettled

theorem skip_failsOnly {P : Problem → Prop} :
    (skip setting number line assembly).FailsOnly P := by
  unfold skip
  split
  · exact FailsOnly.pure _
  · exact (FailsOnly.log _ _).bind fun _ _ => warn_failsOnly _

/-- A line that is rendered by itself can be refused, and its image can be missing. -/
theorem addLine_failsOnly (h : page.draft.page.postChecks = []) :
    (addLine setting number line page).FailsOnly fun problem =>
      ¬problem.IsOfText ∨ problem.IsOfRendering setting line := by
  have hembed : (embedImage setting line page).FailsOnly (¬·.IsOfText) := by
    unfold embedImage
    split
    · exact (Image.embed_failsOnly line).bind fun _ _ => FailsOnly.pure _
    · exact FailsOnly.pure _
  refine (hembed.mono fun _ => .inl).bind fun embedded hembedded =>
    (FailsOnly.log _ _).bind fun _ _ => ?_
  -- an image leaves the post-checks as they are
  have hchecks : embedded.draft.page.postChecks = [] := by
    have hok := embedImage_eq_ok.mp hembedded
    split at hok
    · obtain ⟨asset, -, rfl⟩ := hok
      exact h
    · rw [hok]
      exact h
  exact (addRendered_failsOnly line hchecks).mono fun _ => .inr

theorem feedText_failsOnly (h : page.draft.page.postChecks = []) :
    (feedText setting number line page).FailsOnly fun problem =>
      ¬problem.IsOfText ∨ problem.IsOfRendering setting line := by
  have haccepts : page.draft.acceptsText = true := Draft.acceptsText_iff.mpr h
  unfold feedText
  simp only [haccepts, Bool.not_true, Bool.false_eq_true, ↓reduceIte]
  split
  · exact FailsOnly.pure _
  · split
    · split
      · exact FailsOnly.pure _
      · exact addLine_failsOnly h
    · exact addLine_failsOnly h

theorem feedBlock_failsOnly {pending : PendingFence} (h : page.draft.page.postChecks = []) :
    (feedBlock setting line page pending).FailsOnly
      (·.IsOfRendering setting (pending.source ++ '\n' :: line)) := by
  unfold feedBlock
  dsimp only
  split
  · next tracker _ =>
    have hadd : (addRendered setting (pending.source ++ '\n' :: line)
        { page with tracker, pending := none }).FailsOnly
          (·.IsOfRendering setting (pending.source ++ '\n' :: line)) :=
      addRendered_failsOnly _ h
    exact hadd
  · exact FailsOnly.pure _

/-- Outside of any page nothing is put on a page. -/
theorem feed_outside_failsOnly (hcurrent : assembly.current = none) :
    (feed setting number line assembly).FailsOnly (¬·.IsOfText) := by
  cases hmarked : Directive.isMarked line with
  | true =>
    rw [feed_outside_directive hcurrent hmarked]
    -- there is no page on which a block could wait
    refine feedDirective_failsOnly fun page hpage => ?_
    rw [hcurrent] at hpage
    cases hpage
  | false =>
    rw [feed_outside_text hcurrent hmarked]
    exact skip_failsOnly

section Inside

variable (hcurrent : assembly.current = some page)

include hcurrent

/-- On a directive line the block that waits can be refused. -/
theorem feed_inside_directive_failsOnly (hmarked : Directive.isMarked line = true)
    (hwaits : page.pending.isSome = true → page.draft.page.postChecks = []) :
    (feed setting number line assembly).FailsOnly fun problem =>
      ¬problem.IsOfText ∨
        ∃ pending, page.pending = some pending ∧ problem.IsOfRendering setting pending.source := by
  simp only [feed, hcurrent, hmarked, ↓reduceIte]
  refine ((flushFence_failsOnly hwaits).mono fun _ => .inr).bind fun flushed hflushed => ?_
  -- no block waits on the page that the directive is for
  refine (feedDirective_failsOnly fun other hother => ?_).mono fun _ => .inl
  obtain rfl := Option.some.inj hother
  exact pending_of_flushFence_eq_ok hflushed

/-- On a line of text the block that it closes can be refused. -/
theorem feed_inside_block_failsOnly {pending : PendingFence}
    (hmarked : Directive.isMarked line = false) (hpending : page.pending = some pending)
    (hchecks : page.draft.page.postChecks = []) :
    (feed setting number line assembly).FailsOnly
      (·.IsOfRendering setting (pending.source ++ '\n' :: line)) := by
  simp only [feed, hcurrent, hmarked, hpending, Bool.false_eq_true, ↓reduceIte]
  exact (feedBlock_failsOnly hchecks).bind fun _ _ => FailsOnly.pure _

/-- Where no block waits, the line itself can be refused. -/
theorem feed_inside_text_failsOnly (hmarked : Directive.isMarked line = false)
    (hpending : page.pending = none) (hchecks : page.draft.page.postChecks = []) :
    (feed setting number line assembly).FailsOnly fun problem =>
      ¬problem.IsOfText ∨ problem.IsOfRendering setting line := by
  simp only [feed, hcurrent, hmarked, hpending, Bool.false_eq_true, ↓reduceIte]
  exact (feedText_failsOnly hchecks).bind fun _ _ => FailsOnly.pure _

end Inside

/-- Text is out of place only on a line of text that follows a post-check. -/
theorem feed_failsOnly
    (hwaits : ∀ page, assembly.current = some page → page.pending.isSome = true →
      page.draft.page.postChecks = [])
    (hplace : Directive.isMarked line = false → ∀ page, assembly.current = some page →
      page.draft.page.postChecks = []) :
    (feed setting number line assembly).FailsOnly (· ≠ .textAfterPostCheck) := by
  cases hcurrent : assembly.current with
  | none => exact (feed_outside_failsOnly hcurrent).mono fun _ => Problem.ne_of_not_isOfText
  | some page =>
    cases hmarked : Directive.isMarked line with
    | true =>
      -- the block that the directive ends is refused by the renderer, if at all
      refine (feed_inside_directive_failsOnly hcurrent hmarked (hwaits page hcurrent)).mono ?_
      rintro problem (hproblem | ⟨pending, -, hproblem⟩)
      · exact Problem.ne_of_not_isOfText hproblem
      · exact hproblem.ne
    | false =>
      -- on a line of text there is no check, by assumption
      have hchecks := hplace hmarked page hcurrent
      cases hpending : page.pending with
      | some pending =>
        exact (feed_inside_block_failsOnly hcurrent hmarked hpending hchecks).mono
          fun _ => Problem.IsOfRendering.ne
      | none =>
        refine (feed_inside_text_failsOnly hcurrent hmarked hpending hchecks).mono ?_
        rintro problem (hproblem | hproblem)
        · exact Problem.ne_of_not_isOfText hproblem
        · exact hproblem.ne

/-- A line of text behind a post-check is refused at once: no file is read, nothing is rendered, and
nothing is logged. -/
theorem feed_of_textAfterPostCheck (hcurrent : assembly.current = some page)
    (hmarked : Directive.isMarked line = false) (hpending : page.pending = none)
    (hchecks : page.draft.page.postChecks ≠ []) :
    feed setting number line assembly = .fail .textAfterPostCheck := by
  have haccepts : page.draft.acceptsText = false := by
    rw [← Bool.not_eq_true, Draft.acceptsText_iff]
    exact hchecks
  -- the guard comes first, so nothing else of the line is evaluated
  simp only [feed, hcurrent, hmarked, hpending, feedText, haccepts, Bool.not_false,
    Bool.false_eq_true, ↓reduceIte]
  rfl

end Assembly

end TutorialPages
