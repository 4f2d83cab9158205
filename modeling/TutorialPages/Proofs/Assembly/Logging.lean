import TutorialPages.Proofs.Assembly.Success

/-!
# What an assembly logs

Besides notes on single lines, an assembly logs what it warns about, the pages that it opens and the
pages that it finishes. Each step logs these as it does them, and a step that fails has told of no
page: this is `Tells`, which sequencing keeps.
-/

namespace TutorialPages

open Layout Traced

/-! ## Records -/

/-- A log record: its weight and its message. -/
abbrev LogRecord := LogLevel × Text

namespace LogRecord

/-- Whether a record is a warning. -/
def isWarning (record : LogRecord) : Bool :=
  record.1 = .warn

/-- Whether a record says that a page has been opened. -/
def isOpening (record : LogRecord) : Bool :=
  record.1 = .debug && "page opened".toList.isPrefixOf record.2

/-- Whether a record says that a page has been closed. -/
def isClosing (record : LogRecord) : Bool :=
  record.1 = .debug && "page closed".toList.isPrefixOf record.2

/-- Whether a record says that a page has been opened or closed. -/
def isOfPage (record : LogRecord) : Bool :=
  record.isOpening || record.isClosing

/-- Whether a record is none of the notes on single lines. -/
def isTold (record : LogRecord) : Bool :=
  record.isWarning || record.isOfPage

/-- The record of a warning. -/
def ofWarning (warning : Warning) : LogRecord :=
  (.warn, warning.message)

/-- The record of a page that is opened on the line with the given number. -/
def opening (number : Nat) : LogRecord :=
  (.debug, .join ["page opened on line ", Text.ofNat number])

/-- The record of a page that is closed. -/
def closing (page : Page) : LogRecord :=
  (.debug, .join ["page closed with ", Text.ofNat page.preCommands.length, " pre-commands, ",
    Text.ofNat page.postChecks.length, " post-checks"])

@[simp]
theorem isOpening_opening (number : Nat) : (opening number).isOpening = true := rfl

@[simp]
theorem isClosing_opening (number : Nat) : (opening number).isClosing = false := rfl

@[simp]
theorem isOpening_closing (page : Page) : (closing page).isOpening = false := rfl

@[simp]
theorem isClosing_closing (page : Page) : (closing page).isClosing = true := rfl

section Omits

variable {ε α : Type} {step : Traced ε α}

/-- What tells of nothing tells of no page. -/
theorem omits_isOfPage (h : Omits isTold step) : Omits isOfPage step :=
  h.mono fun _ hrecord => (Bool.or_eq_false_iff.mp hrecord).2

/-- What tells of nothing warns of nothing. -/
theorem omits_isWarning (h : Omits isTold step) : Omits isWarning step :=
  h.mono fun _ hrecord => (Bool.or_eq_false_iff.mp hrecord).1

end Omits

theorem isOfPage_of_isOpening (record : LogRecord) (h : record.isOpening = true) :
    record.isOfPage = true := by
  rw [isOfPage, h, Bool.true_or]

theorem isOfPage_of_isClosing (record : LogRecord) (h : record.isClosing = true) :
    record.isOfPage = true := by
  rw [isOfPage, h, Bool.or_true]

/-- What the log tells of pages decides where openings, or closings, are in it. -/
theorem filter_eq_of_filter_isOfPage {kind : LogRecord → Bool}
    (h : ∀ record, kind record = true → record.isOfPage = true) {logs told : List LogRecord}
    (htold : logs.filter isOfPage = told) : logs.filter kind = told.filter kind := by
  -- the records of this kind are among those about pages, so the other records do not matter
  rw [← htold, List.filter_filter]
  refine List.filter_congr fun record _ => ?_
  cases hkind : kind record with
  | true => simp [h record hkind]
  | false => simp

end LogRecord

/-! ## Operations that tell of nothing -/

theorem Image.omits_embed (files : FileSource) (base : Path) (line : Text) :
    Omits LogRecord.isTold (Image.embed files base line) := by
  unfold Image.embed
  split
  -- a line without a name fails before anything is logged
  · exact Omits.fail _
  · refine (Omits.read _ _).bind fun _ => ?_
    split
    · exact Omits.fail _
    · exact (Omits.log rfl).bind fun _ => Omits.pure _

namespace Directive

theorem omits_embeddedFile (files : FileSource) (base : Path) (method : Method)
    (arguments : List Text) :
    Omits LogRecord.isTold (embeddedFile files base method arguments) := by
  unfold embeddedFile
  split
  · exact Omits.fail _
  · refine (Omits.read _ _).bind fun _ => ?_
    split
    · exact Omits.pure _
    · exact Omits.fail _
  · exact Omits.fail _

theorem omits_ofArguments (files : FileSource) (base : Path) (method : Method)
    (arguments : List Text) :
    Omits LogRecord.isTold (ofArguments files base method arguments) := by
  cases method with
  | apply | includeFile =>
    exact (omits_embeddedFile files base _ arguments).bind fun _ => Omits.pure _
  | wait | check | execCommand | commandWait | fileCheck | checkCommandOut =>
    exact (Omits.ofExcept _).bind fun _ => Omits.pure _

theorem omits_read (files : FileSource) (base : Path) (line : Text) :
    Omits LogRecord.isTold (read files base line) := by
  -- the one record is a note on the directive, written when it has been read
  have hwords : ∀ words, Omits LogRecord.isTold (ofWords files base (body line) words) := by
    intro words
    cases words with
    | nil => exact Omits.fail _
    | cons first arguments =>
      rw [ofWords]
      split
      · exact Omits.fail _
      · refine (omits_ofArguments files base _ arguments).bind fun _ => ?_
        exact (Omits.log rfl).bind fun _ => Omits.pure _
  rw [read]
  split
  · exact Omits.pure _
  · split
    · exact Omits.pure _
    · exact hwords _

end Directive

namespace Assembly

variable {setting : Setting} {line : Text} {assembly : Assembly}

theorem omits_addRendered (setting : Setting) (fragment : Text) (page : OpenPage) :
    Omits LogRecord.isTold (addRendered setting fragment page) :=
  (Omits.ofExcept _).bind fun _ => (Omits.ofExcept _).bind fun _ => Omits.pure _

theorem omits_addLine (setting : Setting) (number : Nat) (line : Text) (page : OpenPage) :
    Omits LogRecord.isTold (addLine setting number line page) := by
  -- an image that is embedded is noted, like the line itself
  have hembed : Omits LogRecord.isTold (embedImage setting line page) := by
    unfold embedImage
    split
    · exact (Image.omits_embed _ _ _).bind fun _ => Omits.pure _
    · exact Omits.pure _
  exact hembed.bind fun embedded => (Omits.log rfl).bind fun _ =>
    omits_addRendered setting line embedded

theorem omits_feedText (setting : Setting) (number : Nat) (line : Text) (page : OpenPage) :
    Omits LogRecord.isTold (feedText setting number line page) := by
  unfold feedText
  split
  · exact Omits.fail _
  · split
    · exact Omits.pure _
    · split
      · split
        · exact Omits.pure _
        · exact omits_addLine _ _ _ _
      · exact omits_addLine _ _ _ _

theorem omits_feedBlock (setting : Setting) (line : Text) (page : OpenPage)
    (pending : PendingFence) : Omits LogRecord.isTold (feedBlock setting line page pending) := by
  unfold feedBlock
  dsimp only
  split
  · exact omits_addRendered _ _ _
  · exact Omits.pure _

/-! ## Steps that tell what they do -/

/-- A step tells what it does to an assembly: what it warns about, and the pages that it finishes
before it opens pages on the given lines. A step that fails has told of no page. What the step comes
to holds the assembly that `view` finds in it. -/
structure Tells {ε α : Type} (opened : List Nat) (assembly : Assembly) (view : α → Assembly)
    (step : Traced ε α) : Prop where
  warnings : ∀ value, step.outcome = .ok value → ∃ warnings,
    (view value).warnings = assembly.warnings ++ warnings ∧
      step.logs.filter LogRecord.isWarning = warnings.map LogRecord.ofWarning
  pages : ∀ value, step.outcome = .ok value → ∃ pages,
    (view value).pages = assembly.pages ++ pages ∧
      step.logs.filter LogRecord.isOfPage =
        pages.map LogRecord.closing ++ opened.map LogRecord.opening
  silent : ∀ problem, step.outcome = .error problem → step.logs.filter LogRecord.isOfPage = []

namespace Tells

variable {ε α β : Type} {opened : List Nat} {view : α → Assembly} {view' : β → Assembly}

theorem pure {value : α} (hwarnings : (view value).warnings = assembly.warnings)
    (hpages : (view value).pages = assembly.pages) :
    Tells [] assembly view (Pure.pure value : Traced ε α) where
  warnings _ hvalue := by
    cases hvalue
    exact ⟨[], by rw [hwarnings, List.append_nil], rfl⟩
  pages _ hvalue := by
    cases hvalue
    exact ⟨[], by rw [hpages, List.append_nil], rfl⟩
  silent _ hproblem := by cases hproblem

theorem fail (opened : List Nat) (problem : ε) :
    Tells opened assembly view (Traced.fail problem : Traced ε α) where
  warnings _ hvalue := by cases hvalue
  pages _ hvalue := by cases hvalue
  silent _ _ := rfl

/-- A sequence tells what its parts tell. Only the second part may open pages, since no page is
finished behind them; and where it may fail, the first part must not have told of pages. -/
theorem bind {first : Traced ε α} {next : α → Traced ε β} (hfirst : Tells [] assembly view first)
    (hsilent : Omits LogRecord.isOfPage first ∨
      ∀ value problem, (next value).outcome ≠ .error problem)
    (hnext : ∀ value, first.outcome = .ok value → Tells opened (view value) view' (next value)) :
    Tells opened assembly view' (first >>= next) where
  warnings value hvalue := by
    obtain ⟨middle, hmiddle, hlast⟩ := outcome_bind_eq_ok.mp hvalue
    obtain ⟨warnings, hwarnings, htold⟩ := hfirst.warnings middle hmiddle
    obtain ⟨warnings', hwarnings', htold'⟩ := (hnext middle hmiddle).warnings value hlast
    refine ⟨warnings ++ warnings', ?_, ?_⟩
    · rw [hwarnings', hwarnings, List.append_assoc]
    · rw [logs_bind_of_ok hmiddle, List.filter_append, htold, htold', List.map_append]
  pages value hvalue := by
    -- the first part opens no page, so all pages that have been closed come before the one opened
    obtain ⟨middle, hmiddle, hlast⟩ := outcome_bind_eq_ok.mp hvalue
    obtain ⟨pages, hpages, htold⟩ := hfirst.pages middle hmiddle
    obtain ⟨pages', hpages', htold'⟩ := (hnext middle hmiddle).pages value hlast
    refine ⟨pages ++ pages', ?_, ?_⟩
    · rw [hpages', hpages, List.append_assoc]
    · rw [logs_bind_of_ok hmiddle, List.filter_append, htold, htold', List.map_nil,
        List.append_nil, List.map_append, List.append_assoc]
  silent problem hproblem := by
    -- a failure of the first part tells of nothing; where the second may fail, nothing came before
    rcases outcome_bind_eq_error.mp hproblem with herror | ⟨middle, hmiddle, herror⟩
    · rw [logs_bind_of_error herror, hfirst.silent problem herror]
    · rcases hsilent with homits | hsucceeds
      · rw [logs_bind_of_ok hmiddle, List.filter_append, homits.filter_logs, List.nil_append]
        exact (hnext middle hmiddle).silent problem herror
      · exact absurd herror (hsucceeds middle problem)

/-- What tells of nothing may come before any step. -/
theorem bind_of_omits {first : Traced ε α} {next : α → Traced ε β}
    (hfirst : Omits LogRecord.isTold first)
    (hnext : ∀ value, first.outcome = .ok value → Tells opened assembly view' (next value)) :
    Tells opened assembly view' (first >>= next) := by
  have hpages := LogRecord.omits_isOfPage hfirst
  have htells : Tells [] assembly (fun _ => assembly) first := by
    refine ⟨fun _ _ => ⟨[], (List.append_nil _).symm, ?_⟩,
      fun _ _ => ⟨[], (List.append_nil _).symm, ?_⟩, fun _ _ => ?_⟩
    · exact (LogRecord.omits_isWarning hfirst).filter_logs
    · exact hpages.filter_logs
    · exact hpages.filter_logs
  exact htells.bind (.inl hpages) hnext

/-- How problems are restated does not matter. -/
theorem mapError {ε' : Type} {restate : ε → ε'} {step : Traced ε α}
    (h : Tells opened assembly view step) :
    Tells opened assembly view (step.mapError restate) where
  warnings value hvalue := h.warnings value (outcome_mapError_eq_ok.mp hvalue)
  pages value hvalue := h.pages value (outcome_mapError_eq_ok.mp hvalue)
  silent _ hfailure := by
    obtain ⟨problem, hproblem, -⟩ := outcome_mapError_eq_error.mp hfailure
    exact h.silent problem hproblem

end Tells

/-! ## What is told of warnings and pages -/

theorem tells_warn (warning : Warning) (assembly : Assembly) :
    Tells [] assembly id (warn warning assembly) where
  warnings _ hvalue := by
    cases hvalue
    exact ⟨[warning], rfl, rfl⟩
  pages _ hvalue := by
    cases hvalue
    exact ⟨[], (List.append_nil _).symm, rfl⟩
  silent _ hproblem := by cases hproblem

theorem omits_warn (warning : Warning) (assembly : Assembly) :
    Omits LogRecord.isOfPage (warn warning assembly) :=
  (Omits.log rfl).bind fun _ => Omits.pure _

theorem tells_flushFence (setting : Setting) (page : OpenPage) (assembly : Assembly) :
    Tells [] assembly (fun flushed => { flushed.2 with current := some flushed.1 })
      (flushFence setting page assembly) := by
  unfold flushFence
  split
  · exact .pure rfl rfl
  · refine .bind_of_omits (omits_addRendered _ _ _) fun flushed _ => ?_
    exact (tells_warn _ assembly).bind (.inl (omits_warn _ _)) fun warned _ => .pure rfl rfl

theorem omits_flushFence (setting : Setting) (page : OpenPage) (assembly : Assembly) :
    Omits LogRecord.isOfPage (flushFence setting page assembly) := by
  unfold flushFence
  split
  · exact Omits.pure _
  · refine Omits.bind ?_ fun _ => (omits_warn _ _).bind fun _ => Omits.pure _
    exact LogRecord.omits_isOfPage (omits_addRendered _ _ _)

/-- The page that is finished is the one that the record counts. -/
theorem tells_closePage (setting : Setting) (page : OpenPage) (assembly : Assembly) :
    Tells [] assembly id (closePage setting page assembly) := by
  refine (tells_flushFence setting page assembly).bind (.inl (omits_flushFence _ _ _))
    fun flushed _ => ?_
  -- an empty page is refused before its record is written
  refine .bind_of_omits (Omits.ofExcept _) fun finished _ => ⟨?_, ?_, ?_⟩
  · intro _ hvalue
    cases hvalue
    exact ⟨[], (List.append_nil _).symm, rfl⟩
  · intro _ hvalue
    cases hvalue
    exact ⟨[finished], rfl, rfl⟩
  · intro _ hproblem
    cases hproblem

theorem tells_openPage (number : Nat) (assembly : Assembly) :
    Tells [number] assembly id (apply.openPage number assembly) where
  warnings _ hvalue := by
    cases hvalue
    exact ⟨[], (List.append_nil _).symm, rfl⟩
  pages _ hvalue := by
    cases hvalue
    exact ⟨[], (List.append_nil _).symm, rfl⟩
  silent _ hproblem := by cases hproblem

/-! ## What lines tell of -/

/-- A directive opens a page on its line if it is `START PAGE`. -/
theorem tells_apply (setting : Setting) (number : Nat) (directive : Directive)
    (assembly : Assembly) :
    Tells (if directive = .startPage then [number] else []) assembly id
      (apply setting number directive assembly) := by
  cases hcurrent : assembly.current with
  | none =>
    cases directive with
    | startPage =>
      simp only [apply, hcurrent]
      exact tells_openPage number assembly
    | endPage | pre command | post check =>
      simp only [apply, hcurrent]
      exact .fail _ _
  | some page =>
    cases directive with
    | startPage =>
      simp only [apply, hcurrent]
      refine (tells_warn _ assembly).bind (.inl (omits_warn _ _)) fun warned _ => ?_
      -- once the open page is closed, the next one is opened without fail
      refine (tells_closePage setting page warned).bind (.inr ?_) fun closed _ =>
        tells_openPage number closed
      intro closed problem hproblem
      cases hproblem
    | endPage =>
      simp only [apply, hcurrent]
      exact tells_closePage setting page assembly
    | pre command | post check =>
      simp only [apply, hcurrent]
      exact .pure rfl rfl

theorem tells_feedDirective (number : Nat) (assembly : Assembly)
    (hmarked : Directive.isMarked line = true) :
    Tells (if opensPage setting.files setting.base line then [number] else []) assembly id
      (feedDirective setting number line assembly) := by
  refine .bind_of_omits (Directive.omits_read _ _ _) fun directive hread => ?_
  have hopens : opensPage setting.files setting.base line = (directive = .startPage) := by
    rw [opensPage_iff, (directive?_eq_some_iff hmarked).mpr hread, Option.some.injEq]
  simp only [hopens]
  exact tells_apply setting number directive assembly

theorem tells_skip (setting : Setting) (number : Nat) (line : Text) (assembly : Assembly) :
    Tells [] assembly id (skip setting number line assembly) := by
  unfold skip
  split
  · exact .pure rfl rfl
  · exact .bind_of_omits (Omits.log rfl) fun _ _ => tells_warn _ assembly

/-- A line tells what it does to the assembly, and of the page that it opens. -/
theorem tells_feed (setting : Setting) (number : Nat) (line : Text) (assembly : Assembly) :
    Tells (if opensPage setting.files setting.base line then [number] else []) assembly id
      (feed setting number line assembly) := by
  cases hmarked : Directive.isMarked line with
  | true =>
    cases hcurrent : assembly.current with
    | none =>
      rw [feed_outside_directive hcurrent hmarked]
      exact tells_feedDirective number assembly hmarked
    | some page =>
      simp only [feed, hcurrent, hmarked, ↓reduceIte]
      refine (tells_flushFence setting page assembly).bind (.inl (omits_flushFence _ _ _))
        fun flushed _ => ?_
      exact tells_feedDirective number _ hmarked
  | false =>
    have hmarker := isPageMarker_of_not_isMarked setting.files setting.base hmarked
    rw [opensPage_of_not_marker hmarker, if_neg Bool.false_ne_true]
    cases hcurrent : assembly.current with
    | none =>
      rw [feed_outside_text hcurrent hmarked]
      exact tells_skip setting number line assembly
    | some page =>
      simp only [feed, hcurrent, hmarked, Bool.false_eq_true, ↓reduceIte]
      -- on a page a line of text brings notes at most
      cases page.pending with
      | some pending => exact .bind_of_omits (omits_feedBlock _ _ _ _) fun _ _ => .pure rfl rfl
      | none => exact .bind_of_omits (omits_feedText _ _ _ _) fun _ _ => .pure rfl rfl

/-! ## What the end tells of -/

theorem tells_closeLast (setting : Setting) (page : OpenPage) (assembly : Assembly) :
    Tells [] assembly id (closeLast setting page assembly) := by
  unfold closeLast
  split
  · exact .fail _ _
  · exact (tells_warn _ assembly).bind (.inl (omits_warn _ _)) fun warned _ =>
      tells_closePage setting page warned

/-- The end of the lines tells of the page that is closed there. -/
theorem tells_finish (setting : Setting) (lines : List Text) (assembly : Assembly) :
    Tells [] assembly (fun compiled => ⟨none, compiled.document.pages, compiled.warnings⟩)
      (finish setting lines assembly) := by
  cases hcurrent : assembly.current with
  | none =>
    rw [finish_of_none hcurrent]
    exact .pure rfl rfl
  | some page =>
    simp only [finish, hcurrent]
    refine (tells_closeLast setting page assembly).mapError.bind (.inr ?_) fun closed _ =>
      .pure rfl rfl
    intro closed failure hfailure
    cases hfailure

end Assembly

end TutorialPages
