import TutorialPages.Traced

/-!
# Laws of traced computations

Outcomes, readings and log records are views of a traced computation, and sequencing acts on each
view alone. Two computations *match* when they read the same files in the same order and their
outcomes are related; sequencing keeps this, so that two runs can be compared step by step.
-/

namespace TutorialPages.Traced

variable {ε ε' α α' β β' : Type}

/-! ## Sequencing -/

theorem bind_eq_andThen (first : Traced ε α) (next : α → Traced ε β) :
    first >>= next = andThen first next := rfl

theorem andThen_pure (first : Traced ε α) : andThen first pure = first := by
  obtain ⟨events, outcome⟩ := first
  cases outcome with
  | ok value => simp [andThen, pure]
  | error problem => rfl

theorem pure_andThen (value : α) (next : α → Traced ε β) :
    andThen (pure value) next = next value := by
  simp [andThen, pure]

theorem andThen_assoc {γ : Type} (first : Traced ε α) (next : α → Traced ε β)
    (last : β → Traced ε γ) :
    andThen (andThen first next) last = andThen first fun value => andThen (next value) last := by
  obtain ⟨events, outcome⟩ := first
  -- a failure ends both sides at once
  cases outcome with
  | error problem => rfl
  | ok value =>
    simp only [andThen]
    cases (next value).outcome with
    | ok middle => simp
    | error problem => simp

instance : LawfulMonad (Traced ε) :=
  LawfulMonad.mk' (Traced ε) andThen_pure pure_andThen andThen_assoc

/-- What comes second matters only for the value that the first part comes to. -/
theorem bind_congr_of_ok {first : Traced ε α} {next next' : α → Traced ε β}
    (h : ∀ value, first.outcome = .ok value → next value = next' value) :
    first >>= next = first >>= next' := by
  rw [bind_eq_andThen, bind_eq_andThen, andThen, andThen]
  cases hfirst : first.outcome with
  | ok value => simp [h value hfirst]
  | error problem => rfl

/-! ## Outcomes -/

@[simp]
theorem outcome_pure (value : α) : (pure value : Traced ε α).outcome = .ok value := rfl

@[simp]
theorem outcome_ofExcept (outcome : Except ε α) : (ofExcept outcome).outcome = outcome := rfl

@[simp]
theorem outcome_fail (problem : ε) : (fail problem : Traced ε α).outcome = .error problem := rfl

/-- A sequence succeeds exactly when both parts do. -/
theorem outcome_bind_eq_ok {first : Traced ε α} {next : α → Traced ε β} {value : β} :
    (first >>= next).outcome = .ok value ↔
      ∃ middle, first.outcome = .ok middle ∧ (next middle).outcome = .ok value := by
  rw [bind_eq_andThen, andThen]
  cases first.outcome with
  | ok middle => simp
  | error problem => simp

/-- After a success the outcome is that of the second part. -/
theorem outcome_bind_of_ok {first : Traced ε α} {middle : α} (hfirst : first.outcome = .ok middle)
    (next : α → Traced ε β) : (first >>= next).outcome = (next middle).outcome := by
  simp [bind_eq_andThen, andThen, hfirst]

theorem outcome_pure_eq_ok {value result : α} :
    (pure value : Traced ε α).outcome = .ok result ↔ result = value := by
  simp [eq_comm]

/-- A log record at the front does not matter to the outcome. -/
theorem outcome_log_bind {level : LogLevel} {message : Text} {next : Unit → Traced ε α} :
    (log level message >>= next).outcome = (next ()).outcome := rfl

/-- Restating problems changes no success. -/
@[simp]
theorem outcome_mapError_eq_ok {first : Traced ε α} {restate : ε → ε'} {value : α} :
    (first.mapError restate).outcome = .ok value ↔ first.outcome = .ok value := by
  obtain ⟨events, outcome⟩ := first
  cases outcome with
  | ok middle =>
    show Except.ok middle = .ok value ↔ Except.ok middle = .ok value
    simp
  | error problem =>
    show Except.error (restate problem) = .ok value ↔ Except.error problem = .ok value
    simp

/-! ## Failures -/

/-- A sequence fails where its first part fails, or else its second. -/
theorem outcome_bind_eq_error {first : Traced ε α} {next : α → Traced ε β} {problem : ε} :
    (first >>= next).outcome = .error problem ↔
      first.outcome = .error problem ∨
        ∃ middle, first.outcome = .ok middle ∧ (next middle).outcome = .error problem := by
  rw [bind_eq_andThen, andThen]
  cases first.outcome with
  | ok middle => simp
  | error problem => simp

theorem outcome_mapError_eq_error {first : Traced ε α} {restate : ε → ε'} {problem : ε'} :
    (first.mapError restate).outcome = .error problem ↔
      ∃ given, first.outcome = .error given ∧ problem = restate given := by
  obtain ⟨events, outcome⟩ := first
  cases outcome with
  | ok value =>
    show Except.ok value = .error problem ↔ ∃ given, Except.ok value = .error given ∧ _
    simp
  | error given =>
    show Except.error (restate given) = .error problem ↔
      ∃ given', Except.error given = .error given' ∧ problem = restate given'
    simp [eq_comm]

/-- Every failure of the computation is one of the given problems. -/
def FailsOnly (P : ε → Prop) (first : Traced ε α) : Prop :=
  ∀ problem, first.outcome = .error problem → P problem

namespace FailsOnly

variable {P Q : ε → Prop}

theorem pure (value : α) : FailsOnly P (Pure.pure value : Traced ε α) := by
  intro problem hproblem
  cases hproblem

theorem emit (event : Event) : FailsOnly P (Traced.emit event) := by
  intro problem hproblem
  cases hproblem

theorem log (level : LogLevel) (message : Text) : FailsOnly P (Traced.log level message) :=
  emit (.log level message)

theorem ofExcept {outcome : Except ε α} (h : ∀ problem, outcome = .error problem → P problem) :
    FailsOnly P (Traced.ofExcept outcome) :=
  h

theorem fail {problem : ε} (h : P problem) : FailsOnly P (Traced.fail problem : Traced ε α) := by
  intro problem' hproblem
  cases hproblem
  exact h

theorem mono {first : Traced ε α} (h : FailsOnly P first) (hPQ : ∀ problem, P problem → Q problem) :
    FailsOnly Q first :=
  fun problem hproblem => hPQ problem (h problem hproblem)

/-- What a sequence fails with is what one of its parts fails with. -/
theorem bind {first : Traced ε α} {next : α → Traced ε β} (hfirst : FailsOnly P first)
    (hnext : ∀ value, first.outcome = .ok value → FailsOnly P (next value)) :
    FailsOnly P (first >>= next) := by
  intro problem hproblem
  rcases outcome_bind_eq_error.mp hproblem with herror | ⟨middle, hmiddle, herror⟩
  · exact hfirst problem herror
  · exact hnext middle hmiddle problem herror

end FailsOnly

/-- Restating changes nothing when it leaves every problem of the computation as it is. -/
theorem mapError_of_failsOnly {P : ε → Prop} {first : Traced ε α} {restate : ε → ε}
    (hfirst : FailsOnly P first) (h : ∀ problem, P problem → restate problem = problem) :
    first.mapError restate = first := by
  obtain ⟨events, outcome⟩ := first
  cases outcome with
  | ok value => rfl
  | error problem =>
    have hproblem : restate problem = problem := h problem (hfirst problem rfl)
    show (⟨events, .error (restate problem)⟩ : Traced ε α) = ⟨events, .error problem⟩
    rw [hproblem]

/-! ## Readings -/

@[simp]
theorem reads_pure (value : α) : (pure value : Traced ε α).reads = [] := rfl

@[simp]
theorem reads_fail (problem : ε) : (fail problem : Traced ε α).reads = [] := rfl

@[simp]
theorem reads_ofExcept (outcome : Except ε α) : (ofExcept outcome).reads = [] := rfl

@[simp]
theorem reads_log (level : LogLevel) (message : Text) :
    (log level message : Traced ε Unit).reads = [] := rfl

/-- After a success the readings of the second part follow those of the first. -/
theorem reads_bind_of_ok {first : Traced ε α} {middle : α} (hfirst : first.outcome = .ok middle)
    (next : α → Traced ε β) : (first >>= next).reads = first.reads ++ (next middle).reads := by
  simp [bind_eq_andThen, andThen, reads, hfirst]

/-- After a failure nothing more is read. -/
theorem reads_bind_of_error {first : Traced ε α} {problem : ε}
    (hfirst : first.outcome = .error problem) (next : α → Traced ε β) :
    (first >>= next).reads = first.reads := by
  simp [bind_eq_andThen, andThen, reads, hfirst]

/-- What reads nothing adds no reading to what comes before it. -/
theorem reads_bind_of_silent {first : Traced ε α} {next : α → Traced ε β}
    (hnext : ∀ value, (next value).reads = []) : (first >>= next).reads = first.reads := by
  cases hfirst : first.outcome with
  | ok value => rw [reads_bind_of_ok hfirst, hnext, List.append_nil]
  | error problem => rw [reads_bind_of_error hfirst]

/-- A sequence of computations that read nothing reads nothing. -/
theorem reads_bind_eq_nil {first : Traced ε α} {next : α → Traced ε β} (hfirst : first.reads = [])
    (hnext : ∀ value, (next value).reads = []) : (first >>= next).reads = [] := by
  rw [reads_bind_of_silent hnext, hfirst]

@[simp]
theorem reads_mapError (restate : ε → ε') (first : Traced ε α) :
    (first.mapError restate).reads = first.reads := rfl

/-! ## Log records -/

@[simp]
theorem logs_pure (value : α) : (pure value : Traced ε α).logs = [] := rfl

@[simp]
theorem logs_fail (problem : ε) : (fail problem : Traced ε α).logs = [] := rfl

@[simp]
theorem logs_ofExcept (outcome : Except ε α) : (ofExcept outcome).logs = [] := rfl

@[simp]
theorem logs_log (level : LogLevel) (message : Text) :
    (log level message : Traced ε Unit).logs = [(level, message)] := rfl

/-- After a success the records of the second part follow those of the first. -/
theorem logs_bind_of_ok {first : Traced ε α} {middle : α} (hfirst : first.outcome = .ok middle)
    (next : α → Traced ε β) : (first >>= next).logs = first.logs ++ (next middle).logs := by
  simp [bind_eq_andThen, andThen, logs, hfirst]

/-- After a failure nothing more is logged. -/
theorem logs_bind_of_error {first : Traced ε α} {problem : ε}
    (hfirst : first.outcome = .error problem) (next : α → Traced ε β) :
    (first >>= next).logs = first.logs := by
  simp [bind_eq_andThen, andThen, logs, hfirst]

@[simp]
theorem logs_mapError (restate : ε → ε') (first : Traced ε α) :
    (first.mapError restate).logs = first.logs := rfl

/-- None of the records of the computation is of the given kind. -/
def Omits (kind : LogLevel × Text → Bool) (first : Traced ε α) : Prop :=
  ∀ record ∈ first.logs, kind record = false

namespace Omits

variable {kind kind' : LogLevel × Text → Bool}

theorem pure (value : α) : Omits kind (Pure.pure value : Traced ε α) := by
  intro record hrecord
  cases hrecord

theorem fail (problem : ε) : Omits kind (Traced.fail problem : Traced ε α) := by
  intro record hrecord
  cases hrecord

theorem ofExcept (outcome : Except ε α) : Omits kind (Traced.ofExcept outcome) := by
  intro record hrecord
  cases hrecord

theorem read (mode : ReadMode) (path : Path) :
    Omits kind (Traced.emit (.read mode path) : Traced ε Unit) := by
  intro record hrecord
  cases hrecord

theorem log {level : LogLevel} {message : Text} (h : kind (level, message) = false) :
    Omits kind (Traced.log level message : Traced ε Unit) := by
  intro record hrecord
  rw [logs_log, List.mem_singleton] at hrecord
  rw [hrecord]
  exact h

theorem mono {first : Traced ε α} (hfirst : Omits kind first)
    (h : ∀ record, kind record = false → kind' record = false) : Omits kind' first :=
  fun record hrecord => h record (hfirst record hrecord)

/-- What both parts of a sequence omit, the sequence omits. -/
theorem bind {first : Traced ε α} {next : α → Traced ε β} (hfirst : Omits kind first)
    (hnext : ∀ value, Omits kind (next value)) : Omits kind (first >>= next) := by
  intro record hrecord
  cases houtcome : first.outcome with
  | ok value =>
    rw [logs_bind_of_ok houtcome, List.mem_append] at hrecord
    rcases hrecord with hrecord | hrecord
    · exact hfirst record hrecord
    · exact hnext value record hrecord
  | error problem =>
    rw [logs_bind_of_error houtcome] at hrecord
    exact hfirst record hrecord

/-- Nothing is left of the records when only those of the kind are kept. -/
theorem filter_logs {first : Traced ε α} (h : Omits kind first) :
    first.logs.filter kind = [] := by
  rw [List.filter_eq_nil_iff]
  intro record hrecord
  rw [h record hrecord]
  exact Bool.false_ne_true

end Omits

/-! ## Matching computations -/

/-- Both outcomes are failures with related problems, or both are successes with related values. -/
inductive OutcomesMatch (E : ε → ε' → Prop) (R : α → α' → Prop) :
    Except ε α → Except ε' α' → Prop where
  | ok {value : α} {value' : α'} (related : R value value') :
      OutcomesMatch E R (.ok value) (.ok value')
  | error {problem : ε} {problem' : ε'} (related : E problem problem') :
      OutcomesMatch E R (.error problem) (.error problem')

/-- Two computations read the same files in the same order and come to related outcomes. -/
structure Matches (E : ε → ε' → Prop) (R : α → α' → Prop) (first : Traced ε α)
    (second : Traced ε' α') : Prop where
  reads : first.reads = second.reads
  outcome : OutcomesMatch E R first.outcome second.outcome

namespace Matches

variable {E : ε → ε' → Prop} {R : α → α' → Prop} {S : β → β' → Prop}

theorem pure {value : α} {value' : α'} (related : R value value') :
    Matches E R (Pure.pure value : Traced ε α) (Pure.pure value') :=
  ⟨rfl, .ok related⟩

theorem fail {problem : ε} {problem' : ε'} (related : E problem problem') :
    Matches E R (Traced.fail problem) (Traced.fail problem') :=
  ⟨rfl, .error related⟩

theorem ofExcept {outcome : Except ε α} {outcome' : Except ε' α'}
    (related : OutcomesMatch E R outcome outcome') :
    Matches E R (Traced.ofExcept outcome) (Traced.ofExcept outcome') :=
  ⟨rfl, related⟩

/-- Log records do not count. -/
theorem log (level level' : LogLevel) (message message' : Text) :
    Matches E Eq (Traced.log level message) (Traced.log level' message') :=
  ⟨rfl, .ok rfl⟩

theorem refl (first : Traced ε α) : Matches Eq Eq first first := by
  refine ⟨rfl, ?_⟩
  cases first.outcome with
  | ok value => exact .ok rfl
  | error problem => exact .error rfl

/-- Matching is kept by sequencing when the related values that the first computations come to are
followed by matching computations. -/
theorem bind_of_ok {first : Traced ε α} {first' : Traced ε' α'} {next : α → Traced ε β}
    {next' : α' → Traced ε' β'} (hfirst : Matches E R first first')
    (hnext : ∀ value value', first.outcome = .ok value → R value value' →
      Matches E S (next value) (next' value')) :
    Matches E S (first >>= next) (first' >>= next') := by
  obtain ⟨events, outcome⟩ := first
  obtain ⟨events', outcome'⟩ := first'
  obtain ⟨hreads, houtcome⟩ := hfirst
  simp only at houtcome
  cases houtcome with
  | error related =>
    exact ⟨hreads, .error related⟩
  | ok related =>
    obtain ⟨hreads', houtcome'⟩ := hnext _ _ rfl related
    refine ⟨?_, houtcome'⟩
    rw [reads_bind_of_ok rfl, reads_bind_of_ok rfl, hreads, hreads']

/-- Matching is kept by sequencing when related values are followed by matching computations. -/
theorem bind {first : Traced ε α} {first' : Traced ε' α'} {next : α → Traced ε β}
    {next' : α' → Traced ε' β'} (hfirst : Matches E R first first')
    (hnext : ∀ value value', R value value' → Matches E S (next value) (next' value')) :
    Matches E S (first >>= next) (first' >>= next') :=
  bind_of_ok hfirst fun value value' _ => hnext value value'

/-- Matching is kept when the problems of both are restated alike. -/
theorem mapError {ζ ζ' : Type} {F : ζ → ζ' → Prop} {first : Traced ε α} {first' : Traced ε' α'}
    {restate : ε → ζ} {restate' : ε' → ζ'} (hfirst : Matches E R first first')
    (hrestate : ∀ problem problem', E problem problem' → F (restate problem) (restate' problem')) :
    Matches F R (first.mapError restate) (first'.mapError restate') := by
  obtain ⟨events, outcome⟩ := first
  obtain ⟨events', outcome'⟩ := first'
  obtain ⟨hreads, houtcome⟩ := hfirst
  simp only at houtcome
  cases houtcome with
  | error related => exact ⟨hreads, .error (hrestate _ _ related)⟩
  | ok related => exact ⟨hreads, .ok related⟩

/-- A success is matched by a success. -/
theorem of_ok {first : Traced ε α} {second : Traced ε' α'} (h : Matches E R first second)
    {value : α} (hvalue : first.outcome = .ok value) :
    ∃ value', second.outcome = .ok value' ∧ R value value' := by
  have houtcome := h.outcome
  rw [hvalue] at houtcome
  generalize second.outcome = outcome' at houtcome ⊢
  cases houtcome with
  | ok related => exact ⟨_, rfl, related⟩

/-- A failure is matched by a failure. -/
theorem of_error {first : Traced ε α} {second : Traced ε' α'} (h : Matches E R first second)
    {problem : ε} (hproblem : first.outcome = .error problem) :
    ∃ problem', second.outcome = .error problem' ∧ E problem problem' := by
  have houtcome := h.outcome
  rw [hproblem] at houtcome
  generalize second.outcome = outcome' at houtcome ⊢
  cases houtcome with
  | error related => exact ⟨_, rfl, related⟩

/-- Where the values of the second computation are made of those of the first, the successes of the
second are those of the first. -/
theorem outcome_eq_ok_iff {make : α → α'} {first : Traced ε α} {second : Traced ε' α'}
    (h : Matches E (fun value value' => value' = make value) first second) {value' : α'} :
    second.outcome = .ok value' ↔ ∃ value, first.outcome = .ok value ∧ value' = make value := by
  constructor
  -- a failure of the first computation would be matched by one of the second
  · intro hsecond
    cases hfirst : first.outcome with
    | ok value =>
      obtain ⟨made, hmade, rfl⟩ := h.of_ok hfirst
      rw [hsecond] at hmade
      cases hmade
      exact ⟨value, rfl, rfl⟩
    | error problem =>
      obtain ⟨problem', hproblem', -⟩ := h.of_error hfirst
      rw [hsecond] at hproblem'
      cases hproblem'
  · rintro ⟨value, hfirst, rfl⟩
    obtain ⟨made, hmade, rfl⟩ := h.of_ok hfirst
    exact hmade

theorem imp {E' : ε → ε' → Prop} {R' : α → α' → Prop} {first : Traced ε α}
    {second : Traced ε' α'} (h : Matches E R first second)
    (hE : ∀ problem problem', E problem problem' → E' problem problem')
    (hR : ∀ value value', R value value' → R' value value') : Matches E' R' first second := by
  refine ⟨h.reads, ?_⟩
  have houtcome := h.outcome
  generalize first.outcome = outcome, second.outcome = outcome' at houtcome ⊢
  cases houtcome with
  | ok related => exact .ok (hR _ _ related)
  | error related => exact .error (hE _ _ related)

/-- Two computations that match a third one match each other. -/
theorem span {ε'' α'' : Type} {E' : ε → ε'' → Prop} {R' : α → α'' → Prop} {first : Traced ε α}
    {left : Traced ε' α'} {right : Traced ε'' α''} (hleft : Matches E R first left)
    (hright : Matches E' R' first right) :
    Matches (fun problem' problem'' => ∃ problem, E problem problem' ∧ E' problem problem'')
      (fun value' value'' => ∃ value, R value value' ∧ R' value value'') left right := by
  refine ⟨hleft.reads.symm.trans hright.reads, ?_⟩
  have houtcome := hleft.outcome
  have houtcome' := hright.outcome
  generalize first.outcome = given, left.outcome = outcome, right.outcome = outcome'
    at houtcome houtcome' ⊢
  -- all three succeed or all three fail, as the first one does
  cases houtcome with
  | ok related =>
    cases houtcome' with
    | ok related' => exact .ok ⟨_, related, related'⟩
  | error related =>
    cases houtcome' with
    | error related' => exact .error ⟨_, related, related'⟩

end Matches

end TutorialPages.Traced
