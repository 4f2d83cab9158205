import Mathlib.Data.List.Induction
import Mathlib.Data.List.TakeWhile
import TutorialPages.Page.Draft
import TutorialPages.Proofs.Traced

/-!
# What a draft holds

A draft is made by calls, and they may come in any order and number. Of the calls that have been
made the draft holds all commands, checks and images, and the texts before the first post-check:
`after_eq` says so, and from it follows which calls fail and what the finished page is.
-/

namespace TutorialPages

/-- A list of images as a page carries it: absent when there is none. -/
def Page.assetsOf : List Asset → Option (List Asset)
  | [] => none
  | assets => some assets

theorem Page.assetsOf_concat (assets : List Asset) (asset : Asset) :
    Page.assetsOf (assets ++ [asset]) = some ((Page.assetsOf assets).getD [] ++ [asset]) := by
  cases assets with
  | nil => rfl
  | cons first others => rfl

/-- The images of a page, none when the list is absent. -/
theorem Page.getD_assetsOf (assets : List Asset) : (Page.assetsOf assets).getD [] = assets := by
  cases assets with
  | nil => rfl
  | cons first others => rfl

theorem Page.assetsOf_eq_none_iff {assets : List Asset} :
    Page.assetsOf assets = none ↔ assets = [] := by
  cases assets with
  | nil => simp [assetsOf]
  | cons first others => simp [assetsOf]

namespace Draft

variable {draft draft' : Draft} {html : Text} {page : Page}

/-! ## When a call succeeds -/

theorem acceptsText_iff : draft.acceptsText = true ↔ draft.page.postChecks = [] := by
  simp [acceptsText]

/-- A text that is refused leaves the draft as it was: nothing is done before it is refused. -/
theorem run_appendText (html : Text) (draft : Draft) :
    (appendText html).run draft =
      if draft.acceptsText then .ok () { draft with page.text := draft.page.text ++ html }
      else .error .textAfterPostCheck draft := by
  rw [appendText]
  cases haccepts : draft.acceptsText with
  | true => simp [haccepts]
  | false => simp [haccepts]

theorem run_appendText_eq_ok :
    (appendText html).run draft = .ok () draft' ↔
      draft.page.postChecks = [] ∧
        draft' = { draft with page.text := draft.page.text ++ html } := by
  rw [run_appendText, ← acceptsText_iff]
  cases draft.acceptsText with
  | true => simp [eq_comm]
  | false => simp

theorem run_appendText_eq_error {problem : Problem} :
    (appendText html).run draft = .error problem draft' ↔
      draft.page.postChecks ≠ [] ∧ problem = .textAfterPostCheck ∧ draft' = draft := by
  rw [run_appendText, ne_eq, ← acceptsText_iff]
  cases draft.acceptsText with
  | true => simp
  | false => simp [eq_comm]

theorem addText_eq (html : Text) (draft : Draft) :
    draft.addText html =
      if draft.acceptsText then .ok { draft with page.text := draft.page.text ++ html }
      else .error .textAfterPostCheck := by
  rw [addText, run_appendText]
  cases draft.acceptsText with
  | true => rfl
  | false => rfl

theorem addText_eq_ok :
    draft.addText html = .ok draft' ↔
      draft.page.postChecks = [] ∧
        draft' = { draft with page.text := draft.page.text ++ html } := by
  -- the draft that is returned is the state behind the action
  rw [← run_appendText_eq_ok, addText]
  cases (appendText html).run draft with
  | ok value next => simp
  | error problem next => simp

/-- Drafts that accept text alike take it, or refuse it, alike. -/
theorem addText_matches {R : Draft → Draft → Prop} {html' : Text}
    (haccepts : draft'.acceptsText = draft.acceptsText)
    (htaken : R { draft with page.text := draft.page.text ++ html }
      { draft' with page.text := draft'.page.text ++ html' }) :
    Traced.OutcomesMatch Eq R (draft.addText html) (draft'.addText html') := by
  rw [addText_eq, addText_eq, haccepts]
  cases draft.acceptsText with
  | true => exact .ok htaken
  | false => exact .error rfl

theorem finish_eq_ok :
    draft.finish = .ok page ↔ draft.page.isEmpty = false ∧ page = draft.page := by
  rw [finish]
  cases draft.page.isEmpty with
  | true => simp
  | false => simp [eq_comm]

/-! ## Calls -/

/-- A call that adds something to a draft. -/
inductive Call where
  | preCommand (command : PreCommand)
  | postCheck (check : PostCheck)
  | text (html : Text)
  | asset (asset : Asset)
  deriving DecidableEq, Repr

namespace Call

def preCommand? : Call → Option PreCommand
  | .preCommand command => some command
  | _ => none

def postCheck? : Call → Option PostCheck
  | .postCheck check => some check
  | _ => none

def text? : Call → Option Text
  | .text html => some html
  | _ => none

def asset? : Call → Option Asset
  | .asset image => some image
  | _ => none

/-- What the call does to a draft. Only a text can be refused. -/
def perform : Call → EStateM Problem Draft Unit
  | .preCommand command => modify fun draft => draft.addPreCommand command
  | .postCheck check => modify fun draft => draft.addPostCheck check
  | .text html => appendText html
  | .asset image => modify fun draft => draft.addAsset image

end Call

/-- The draft behind a call, whether the call succeeds or fails. -/
def step (draft : Draft) (call : Call) : Draft :=
  match call.perform.run draft with
  | .ok () next => next
  | .error _ next => next

/-- The draft of a page opened on the given line, behind calls that have been made one after
another. -/
def after (line : Nat) (calls : List Call) : Draft :=
  calls.foldl step (start line)

/-- The texts before the first post-check. -/
def leadingTexts (calls : List Call) : List Text :=
  (calls.takeWhile fun call => call.postCheck?.isNone).filterMap Call.text?

variable {line : Nat} {calls before : List Call} {call : Call}

theorem after_concat (line : Nat) (calls : List Call) (call : Call) :
    after line (calls ++ [call]) = (after line calls).step call := by
  rw [after, List.foldl_append, List.foldl_cons, List.foldl_nil, after]

/-- One more text counts when no post-check stands before it. -/
theorem leadingTexts_concat (calls : List Call) (call : Call) :
    leadingTexts (calls ++ [call]) = leadingTexts calls ++
      if calls.filterMap Call.postCheck? = [] then call.text?.toList else [] := by
  induction calls with
  | nil => cases call <;> rfl
  | cons first rest ih =>
    -- a post-check cuts off all that follows, whatever call comes first otherwise
    cases hfirst : first.postCheck? with
    | some check => simp [leadingTexts, hfirst]
    | none =>
      have hcons : ∀ others, leadingTexts (first :: others) =
          first.text?.toList ++ leadingTexts others := by
        intro others
        cases htext : first.text? <;> simp [leadingTexts, hfirst, htext]
      rw [List.cons_append, hcons, hcons, ih, List.append_assoc, List.filterMap_cons_none hfirst]

/-- The texts before the first post-check are those that no post-check stands before. -/
theorem mem_leadingTexts_iff :
    html ∈ leadingTexts calls ↔
      ∃ before behind, calls = before ++ .text html :: behind ∧
        before.filterMap Call.postCheck? = [] := by
  induction calls using List.reverseRecOn with
  | nil => simp [leadingTexts]
  | append_singleton calls call ih =>
    rw [leadingTexts_concat, List.mem_append, ih]
    constructor
    -- the text is one of those before, or the last call adds it and no check stands before it
    · rintro (⟨before, behind, rfl, hbefore⟩ | hlast)
      · exact ⟨before, behind ++ [call], by simp, hbefore⟩
      · split at hlast
        · next hchecks =>
          refine ⟨calls, [], ?_, hchecks⟩
          cases call with
          | text given =>
            obtain rfl : html = given := by simpa [Call.text?] using hlast
            rfl
          | preCommand | postCheck | asset => simp [Call.text?] at hlast
        · simp at hlast
    · rintro ⟨before, behind, hcalls, hbefore⟩
      -- the text is the last call, or one of those before
      rcases List.eq_nil_or_concat behind with rfl | ⟨behind, last, rfl⟩
      · obtain ⟨rfl, hcall⟩ := List.append_inj' hcalls rfl
        cases hcall
        right
        simp [hbefore, Call.text?]
      · rw [List.concat_eq_append, ← List.cons_append, ← List.append_assoc] at hcalls
        exact .inl ⟨before, behind, (List.append_inj' hcalls rfl).1, hbefore⟩

/-- Behind any calls the draft holds what they have added. -/
theorem after_eq (line : Nat) (calls : List Call) :
    after line calls =
      ⟨line,
        { preCommands := calls.filterMap Call.preCommand?
          text := Text.join (leadingTexts calls)
          postChecks := calls.filterMap Call.postCheck?
          assets := Page.assetsOf (calls.filterMap Call.asset?) }⟩ := by
  induction calls using List.reverseRecOn with
  | nil => rfl
  | append_singleton calls call ih =>
    rw [after_concat, ih, leadingTexts_concat]
    -- each call adds to one of the four parts; a text adds nothing behind a post-check
    cases call with
    | preCommand command =>
      simp [step, Call.perform, addPreCommand, Call.preCommand?, Call.postCheck?, Call.text?,
        Call.asset?, List.filterMap_cons]
    | postCheck check =>
      simp [step, Call.perform, addPostCheck, Call.preCommand?, Call.postCheck?, Call.text?,
        Call.asset?, List.filterMap_cons]
    | asset image =>
      simp [step, Call.perform, addAsset, Call.preCommand?, Call.postCheck?, Call.text?,
        Call.asset?, List.filterMap_cons, Page.assetsOf_concat]
    | text html =>
      by_cases hchecks : calls.filterMap Call.postCheck? = []
      · simp [step, Call.perform, run_appendText, acceptsText, hchecks, Call.preCommand?,
          Call.postCheck?, Call.text?, Call.asset?, List.filterMap_cons, Text.join]
      · simp [step, Call.perform, run_appendText, acceptsText, hchecks, Call.preCommand?,
          Call.postCheck?, Call.asset?, List.filterMap_cons]

/-- What calls have added of one kind is nothing exactly when no call is of that kind. -/
theorem filterMap_eq_nil_iff {α : Type} {view : Call → Option α} {kind : α → Call}
    (hkind : ∀ call value, view call = some value ↔ call = kind value) :
    calls.filterMap view = [] ↔ ∀ value, kind value ∉ calls := by
  rw [List.filterMap_eq_nil_iff]
  constructor
  · intro h value hmem
    have hnone := h _ hmem
    rw [(hkind _ value).mpr rfl] at hnone
    cases hnone
  · intro h call hmem
    refine Option.eq_none_iff_forall_ne_some.mpr fun value hsome => ?_
    obtain rfl := (hkind call value).mp hsome
    exact h value hmem

theorem Call.preCommand?_eq_some (call : Call) (command : PreCommand) :
    call.preCommand? = some command ↔ call = .preCommand command := by
  cases call <;> simp [preCommand?]

theorem Call.postCheck?_eq_some (call : Call) (check : PostCheck) :
    call.postCheck? = some check ↔ call = .postCheck check := by
  cases call <;> simp [postCheck?]

theorem Call.asset?_eq_some (call : Call) (image : Asset) :
    call.asset? = some image ↔ call = .asset image := by
  cases call <;> simp [asset?]

/-! ## What fails -/

/-- A post-check is there as soon as one has been added. -/
theorem acceptsText_after_iff :
    (after line calls).acceptsText = true ↔ ∀ check, Call.postCheck check ∉ calls := by
  rw [acceptsText_iff, after_eq, filterMap_eq_nil_iff Call.postCheck?_eq_some]

/-- Only a text fails, and only behind a post-check, and the draft is then as it was. -/
theorem perform_after_eq_error {problem : Problem} :
    call.perform.run (after line before) = .error problem draft ↔
      problem = .textAfterPostCheck ∧ draft = after line before ∧ (∃ html, call = .text html) ∧
        ∃ check, Call.postCheck check ∈ before := by
  cases call with
  | preCommand | postCheck | asset => simp [Call.perform]
  | text html =>
    have hchecks : (after line before).page.postChecks ≠ [] ↔
        ∃ check, Call.postCheck check ∈ before := by
      rw [after_eq, ne_eq, filterMap_eq_nil_iff Call.postCheck?_eq_some]
      push Not
      rfl
    rw [Call.perform, run_appendText_eq_error, hchecks]
    simp [and_comm, and_assoc]

theorem step_of_error {problem : Problem} (h : call.perform.run draft = .error problem draft') :
    draft.step call = draft' := by
  rw [step, h]

/-- The calls have added no command and no check, and no text but empty ones. -/
structure Barren (line : Nat) (calls : List Call) : Prop where
  preCommand : ∀ command, Call.preCommand command ∉ calls
  postCheck : ∀ check, Call.postCheck check ∉ calls
  /-- A text that the draft has taken is empty. -/
  text : ∀ before html behind, calls = before ++ .text html :: behind →
    (∃ next, (Call.text html).perform.run (after line before) = .ok () next) → html = []

/-- Behind barren calls there is nothing on the page but images. -/
theorem barren_iff : Barren line calls ↔ (after line calls).page.isEmpty = true := by
  rw [after_eq, Page.isEmpty, Bool.and_eq_true, Bool.and_eq_true, List.isEmpty_iff,
    List.isEmpty_iff, List.isEmpty_iff, filterMap_eq_nil_iff Call.preCommand?_eq_some,
    filterMap_eq_nil_iff Call.postCheck?_eq_some, Text.join, List.flatten_eq_nil_iff]
  constructor
  · rintro ⟨hcommand, hcheck, htext⟩
    refine ⟨⟨hcommand, fun html hhtml => ?_⟩, hcheck⟩
    obtain ⟨before, behind, hcalls, hbefore⟩ := mem_leadingTexts_iff.mp hhtml
    refine htext before html behind hcalls ⟨_, run_appendText_eq_ok.mpr ⟨?_, rfl⟩⟩
    rw [after_eq]
    exact hbefore
  · rintro ⟨⟨hcommand, htext⟩, hcheck⟩
    refine ⟨hcommand, hcheck, ?_⟩
    rintro before html behind rfl ⟨next, hnext⟩
    -- the text has been taken, so it is one of those before the first post-check
    refine htext html (mem_leadingTexts_iff.mpr ⟨before, behind, rfl, ?_⟩)
    have hchecks := (run_appendText_eq_ok.mp hnext).1
    rw [after_eq] at hchecks
    exact hchecks

/-! ## All calls -/

/-- What calls make of a new draft, in whatever order and number they come. A call fails exactly
when it adds a text behind a post-check, it then leaves the draft as it was, and a draft that takes
no text never takes one again. The page cannot be finished exactly when the calls are barren,
whatever images there are; else it has all commands, checks and images in the order in which they
were added, and the texts from before the first post-check. -/
theorem after_calls (line : Nat) :
    (∀ before call,
      (∀ problem draft, call.perform.run (after line before) = .error problem draft ↔
        problem = .textAfterPostCheck ∧ draft = after line before ∧
          (∃ html, call = .text html) ∧ ∃ check, Call.postCheck check ∈ before) ∧
      ((∃ problem draft, call.perform.run (after line before) = .error problem draft) →
        after line (before ++ [call]) = after line before)) ∧
    (∀ before later, (after line before).acceptsText = false →
      (after line (before ++ later)).acceptsText = false) ∧
    ∀ calls,
      (∀ problem, (after line calls).finish = .error problem ↔
        problem = .emptyPage ∧ Barren line calls) ∧
      (∀ page, (after line calls).finish = .ok page ↔
        ¬Barren line calls ∧ page =
          { preCommands := calls.filterMap Call.preCommand?
            text := Text.join (leadingTexts calls)
            postChecks := calls.filterMap Call.postCheck?
            assets := Page.assetsOf (calls.filterMap Call.asset?) }) ∧
      ∀ page, (after line calls).finish = .ok page →
        (page.assets = none ↔ ∀ image, Call.asset image ∉ calls) := by
  refine ⟨fun before call => ⟨fun problem draft => perform_after_eq_error, ?_⟩, ?_,
    fun calls => ?_⟩
  -- the draft behind a failing call is the one that the failure leaves
  · rintro ⟨problem, draft, hproblem⟩
    obtain ⟨-, rfl, -⟩ := perform_after_eq_error.mp hproblem
    rw [after_concat, step_of_error hproblem]
  -- a check that has been added stays among the calls
  · intro before later hbefore
    rw [← Bool.not_eq_true, acceptsText_after_iff] at hbefore ⊢
    intro hnone
    exact hbefore fun check hcheck => hnone check (List.mem_append_left later hcheck)
  -- the calls are barren exactly when the page that they make is empty
  · have hpage : ∀ page, (after line calls).finish = .ok page ↔
        ¬Barren line calls ∧ page =
          { preCommands := calls.filterMap Call.preCommand?
            text := Text.join (leadingTexts calls)
            postChecks := calls.filterMap Call.postCheck?
            assets := Page.assetsOf (calls.filterMap Call.asset?) } := by
      intro page
      rw [finish_eq_ok, barren_iff, Bool.not_eq_true, after_eq]
    refine ⟨fun problem => ?_, hpage, ?_⟩
    · rw [barren_iff, finish]
      cases (after line calls).page.isEmpty with
      | true => simp [eq_comm]
      | false => simp
    · intro page hfinish
      obtain ⟨-, rfl⟩ := (hpage page).mp hfinish
      rw [Page.assetsOf_eq_none_iff, filterMap_eq_nil_iff Call.asset?_eq_some]

/-- A text is refused behind a check and leaves no trace, and images alone make no page. -/
theorem after_calls_text_and_image :
    (after 7 [.text ['a'], .postCheck (.fileCheck ['f']), .text ['b'],
        .preCommand (.execCommand ['l'])]).finish =
      .ok ⟨[.execCommand ['l']], ['a'], [.fileCheck ['f']], none⟩ ∧
    (Call.text ['b']).perform.run (after 7 [.postCheck (.fileCheck ['f'])]) =
      .error .textAfterPostCheck (after 7 [.postCheck (.fileCheck ['f'])]) ∧
    after 7 [.postCheck (.fileCheck ['f']), .text ['b']] = after 7 [.postCheck (.fileCheck ['f'])] ∧
    (after 7 [.text [], .asset ⟨['t'], []⟩]).finish = .error .emptyPage := by
  obtain ⟨hcalls, -, hfinish⟩ := after_calls 7
  obtain ⟨hrefused, hbehind⟩ := hcalls [.postCheck (.fileCheck ['f'])] (.text ['b'])
  have hproblem := (hrefused .textAfterPostCheck _).mpr
    ⟨rfl, rfl, ⟨['b'], rfl⟩, .fileCheck ['f'], by simp⟩
  refine ⟨?_, hproblem, hbehind ⟨_, _, hproblem⟩, ?_⟩
  · refine ((hfinish _).2.1 _).mpr ⟨fun hbarren => ?_, rfl⟩
    exact hbarren.postCheck (.fileCheck ['f']) (by simp)
  · exact ((hfinish _).1 _).mpr ⟨rfl, barren_iff.mpr rfl⟩

end Draft

end TutorialPages
