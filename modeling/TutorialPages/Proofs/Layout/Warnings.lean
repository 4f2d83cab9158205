import TutorialPages.Proofs.Layout.Progress

/-!
# The order of warnings

Warnings come in the order of the lines that they name. For the place of a line this is plain, since
it is judged when the line is taken. A block without a closing fence is reported at its first line,
and only when the block is ended; but until then nothing else is reported, for all lines of a block
are text on an open page. `reportedUpTo` is the last line that no later warning can name.
-/

namespace TutorialPages.Layout

/-! ## The last `START PAGE` is one line -/

/-- No other line is the last `START PAGE`. -/
theorem LastStart.unique {files : FileSource} {base : Path} {lines : List Text}
    {number number' : Nat} {line line' : Text} (h : LastStart files base lines number line)
    (h' : LastStart files base lines number' line') : number = number' := by
  obtain ⟨before, after, rfl, rfl, hopens, hlast⟩ := h
  obtain ⟨before', after', hlines, rfl, hopens', hlast'⟩ := h'
  -- the later of two such lines would come behind the other
  rcases List.append_eq_append_iff.mp hlines with ⟨between, rfl, hrest⟩ | ⟨between, rfl, hrest⟩
  · cases between with
    | nil => simp
    | cons first others =>
      obtain ⟨rfl, rfl⟩ := List.cons.inj hrest
      have hnot := hlast line' (by simp)
      rw [hopens'] at hnot
      cases hnot
  · cases between with
    | nil => simp
    | cons first others =>
      obtain ⟨rfl, rfl⟩ := List.cons.inj hrest
      have hnot := hlast' line (by simp)
      rw [hopens] at hnot
      cases hnot

variable {setting : Setting} {before lines : List Text} {line : Text} {warning : Warning}
  {block : Block}

/-! ## Warnings about the place of a line -/

theorem location_of_placementWarning? {page : Option PageBody} {number : Nat}
    (h : placementWarning? setting page number line = some warning) :
    warning.location = Assembly.locate setting.options number := by
  rcases eq_of_placementWarning? h with rfl | ⟨openedAt, rfl⟩
  · rfl
  · rfl

/-- A warning about the place of lines is about the place of one of them. -/
theorem mem_placementWarnings_iff :
    warning ∈ placementWarnings setting before lines ↔
      ∃ earlier line later, lines = earlier ++ line :: later ∧
        placementWarning? setting
          (openBody? setting.files setting.base 1 (before ++ earlier))
          (1 + (before ++ earlier).length) line = some warning := by
  induction lines generalizing before with
  | nil => simp [placementWarnings]
  | cons first rest ih =>
    rw [placementWarnings, List.mem_append, Option.mem_toList, ih]
    -- the warning is about the first line or about one of the rest
    constructor
    · rintro (hfirst | ⟨earlier, line, later, rfl, hline⟩)
      · exact ⟨[], first, rest, rfl, by rwa [List.append_nil]⟩
      · refine ⟨first :: earlier, line, later, rfl, ?_⟩
        rwa [List.append_assoc, List.singleton_append] at hline
    · rintro ⟨earlier, line, later, hlines, hline⟩
      cases earlier with
      | nil =>
        obtain ⟨rfl, rfl⟩ := List.cons.inj hlines
        exact .inl (by rwa [List.append_nil] at hline)
      | cons second earlier =>
        obtain ⟨rfl, rfl⟩ := List.cons.inj hlines
        refine .inr ⟨earlier, line, later, rfl, ?_⟩
        rwa [List.append_assoc, List.singleton_append]

/-! ## The block that waits -/

/-- The block that waits behind the lines. -/
def waitingBlock? (setting : Setting) (before : List Text) : Option Block :=
  (openBody? setting.files setting.base 1 before).bind
    (PageBody.pending? setting.options.groupCodeFences)

/-- The last line that no later warning names. -/
def reportedUpTo (setting : Setting) (before : List Text) : Nat :=
  match waitingBlock? setting before with
  | some block => block.openedAt - 1
  | none => before.length

/-- The block that waits began on one of the lines. -/
theorem openedAt_of_waitingBlock? (h : waitingBlock? setting before = some block) :
    1 ≤ block.openedAt ∧ block.openedAt ≤ before.length := by
  obtain ⟨body, hopen, hpending⟩ := Option.bind_eq_some_iff.mp h
  obtain ⟨earlier, rfl, hopened, -⟩ := PageBody.exists_eq_append_of_pending? hopen hpending
  rw [hopened, List.length_append, Block.lines, List.length_cons]
  omega

theorem reportedUpTo_of_none (h : waitingBlock? setting before = none) :
    reportedUpTo setting before = before.length := by
  rw [reportedUpTo, h]

theorem reportedUpTo_of_some (h : waitingBlock? setting before = some block) :
    reportedUpTo setting before = block.openedAt - 1 := by
  rw [reportedUpTo, h]

theorem reportedUpTo_le (setting : Setting) (before : List Text) :
    reportedUpTo setting before ≤ before.length := by
  cases hblock : waitingBlock? setting before with
  | none => rw [reportedUpTo_of_none hblock]
  | some block =>
    have hopened := openedAt_of_waitingBlock? hblock
    rw [reportedUpTo_of_some hblock]
    omega

/-- A directive line ends the block that waits. -/
theorem waitingBlock?_concat_of_isMarked (h : Directive.isMarked line = true) :
    waitingBlock? setting (before ++ [line]) = none := by
  rcases opens_or_closes_or_not_marker setting.files setting.base line with
    hopens | hcloses | hcommand
  · simp [waitingBlock?, openBody?_concat_of_opensPage hopens]
  · simp [waitingBlock?, openBody?_concat_of_closesPage hcloses]
  · rw [waitingBlock?, openBody?_concat_of_not_marker hcommand]
    cases openBody? setting.files setting.base 1 before with
    | none => rfl
    | some body => simp [PageBody.pending?_concat_of_isMarked h]

/-- A block that waits behind a line of text has waited before, or the line begins it. -/
theorem openedAt_of_waitingBlock?_concat (hmarked : Directive.isMarked line = false)
    (h : waitingBlock? setting (before ++ [line]) = some block) :
    (∃ earlier, waitingBlock? setting before = some earlier ∧
      block.openedAt = earlier.openedAt) ∨ block.openedAt = before.length + 1 := by
  have hmarker := isPageMarker_of_not_isMarked setting.files setting.base hmarked
  rw [waitingBlock?, openBody?_concat_of_not_marker hmarker] at h
  cases hopen : openBody? setting.files setting.base 1 before with
  | none => simp [hopen] at h
  | some body =>
    have hplace := (openBody?_number hopen).2
    simp only [hopen, Option.map_some, Option.bind_some,
      PageBody.pending?_concat_of_not_isMarked hmarked] at h
    -- either the block goes on, with the line where it began, or it begins on this line
    cases hpending : body.pending? setting.options.groupCodeFences with
    | some earlier =>
      simp only [hpending, Option.ite_none_left_eq_some, Option.some.injEq] at h
      obtain ⟨-, rfl⟩ := h
      exact .inl ⟨earlier, by rw [waitingBlock?, hopen, Option.bind_some, hpending], rfl⟩
    | none =>
      simp only [hpending, Option.ite_none_left_eq_some, Option.map_eq_some_iff] at h
      obtain ⟨-, fence, -, rfl⟩ := h
      refine .inr ?_
      show body.openedAt + 1 + body.lines.length = before.length + 1
      omega

/-- What has been reported stays so. -/
theorem reportedUpTo_concat (setting : Setting) (before : List Text) (line : Text) :
    reportedUpTo setting before ≤ reportedUpTo setting (before ++ [line]) := by
  have hbefore := reportedUpTo_le setting before
  cases hnext : waitingBlock? setting (before ++ [line]) with
  -- nothing waits behind the line, so all lines are reported
  | none =>
    rw [reportedUpTo_of_none hnext, List.length_append]
    omega
  | some block =>
    cases hmarked : Directive.isMarked line with
    -- a directive line would have ended the block
    | true =>
      rw [waitingBlock?_concat_of_isMarked hmarked] at hnext
      cases hnext
    | false =>
      rw [reportedUpTo_of_some hnext]
      rcases openedAt_of_waitingBlock?_concat hmarked hnext with ⟨earlier, hearlier, hsame⟩ | hnew
      · rw [reportedUpTo_of_some hearlier, hsame]
      · rw [hnew]
        exact hbefore

/-! ## One line after the other -/

/-- The warnings name lines behind `low` up to `high`, each a later one than those before it. -/
structure OrderedBetween (low high : Nat) (warnings : List Warning) : Prop where
  increasing : warnings.Pairwise fun earlier later => earlier.location.line < later.location.line
  between : ∀ warning ∈ warnings, low < warning.location.line ∧ warning.location.line ≤ high

namespace OrderedBetween

variable {low middle high : Nat} {first second : List Warning}

theorem toList {given : Option Warning}
    (h : ∀ warning, given = some warning →
      low < warning.location.line ∧ warning.location.line ≤ high) :
    OrderedBetween low high given.toList where
  increasing := by cases given <;> simp
  between warning hwarning := h warning (Option.mem_toList.mp hwarning)

theorem append (h : OrderedBetween low middle first) (h' : OrderedBetween middle high second)
    (hlow : low ≤ middle) (hhigh : middle ≤ high) : OrderedBetween low high (first ++ second) where
  increasing := by
    refine List.pairwise_append.mpr ⟨h.increasing, h'.increasing, ?_⟩
    intro earlier hearlier later hlater
    -- the bound between the two parts lies between their lines
    exact lt_of_le_of_lt (h.between earlier hearlier).2 (h'.between later hlater).1
  between warning hwarning := by
    rcases List.mem_append.mp hwarning with hfirst | hsecond
    · have hplace := h.between warning hfirst
      omega
    · have hplace := h'.between warning hsecond
      omega

end OrderedBetween

/-- The block that waits has not been reported, and all that has been names earlier lines. -/
theorem waitingWarnings_between (setting : Setting) (before : List Text) :
    OrderedBetween (reportedUpTo setting before) before.length
      ((waitingBlock? setting before).toList.map (Block.warning setting.options)) := by
  rw [← Option.toList_map]
  refine .toList fun warning hwarning => ?_
  obtain ⟨block, hblock, rfl⟩ := Option.map_eq_some_iff.mp hwarning
  have hopened := openedAt_of_waitingBlock? hblock
  rw [reportedUpTo_of_some hblock]
  show block.openedAt - 1 < block.openedAt ∧ block.openedAt ≤ before.length
  omega

/-- The place of a line is reported under its number. -/
theorem placementWarning?_between {page : Option PageBody} {number : Nat} :
    OrderedBetween number (number + 1)
      (placementWarning? setting page (1 + number) line).toList := by
  refine .toList fun warning hwarning => ?_
  rw [location_of_placementWarning? hwarning]
  show number < 1 + number ∧ 1 + number ≤ number + 1
  omega

/-- A directive line is reported behind the block that it ends. -/
theorem lineWarnings_between_of_isMarked (hmarked : Directive.isMarked line = true) :
    OrderedBetween (reportedUpTo setting before) (reportedUpTo setting (before ++ [line]))
      (lineWarnings setting before line) := by
  have hended : endedBlocks setting.files setting.base setting.options.groupCodeFences before
      line = (waitingBlock? setting before).toList := by
    rw [endedBlocks, if_pos hmarked, waitingBlock?]
    cases openBody? setting.files setting.base 1 before <;> simp
  rw [reportedUpTo_of_none (waitingBlock?_concat_of_isMarked hmarked), List.length_append,
    List.length_singleton, lineWarnings, hended]
  exact (waitingWarnings_between setting before).append placementWarning?_between
    (reportedUpTo_le setting before) (Nat.le_succ _)

/-- Text is reported about outside of any page only, and there no block waits. -/
theorem lineWarnings_between_of_not_isMarked (hmarked : Directive.isMarked line = false) :
    OrderedBetween (reportedUpTo setting before) (reportedUpTo setting (before ++ [line]))
      (lineWarnings setting before line) := by
  have hmarker := isPageMarker_of_not_isMarked setting.files setting.base hmarked
  have hended : endedBlocks setting.files setting.base setting.options.groupCodeFences before
      line = [] := by simp [endedBlocks, hmarked]
  rw [lineWarnings, hended, List.map_nil, List.nil_append]
  cases hopen : openBody? setting.files setting.base 1 before with
  | none =>
    have hbefore : waitingBlock? setting before = none := by
      rw [waitingBlock?, hopen, Option.bind_none]
    have hafter : waitingBlock? setting (before ++ [line]) = none := by
      rw [waitingBlock?, openBody?_concat_of_not_marker hmarker, hopen]
      rfl
    rw [reportedUpTo_of_none hbefore, reportedUpTo_of_none hafter, List.length_append,
      List.length_singleton]
    exact placementWarning?_between
  | some body =>
    refine .toList fun warning hwarning => ?_
    simp [placementWarning?, opensPage_of_not_marker hmarker] at hwarning

/-- Warnings name lines among those that have been reported about, in order. -/
theorem linesWarnings_between (setting : Setting) (lines : List Text) :
    OrderedBetween 0 (reportedUpTo setting lines) (linesWarnings setting [] lines) := by
  induction lines using List.reverseRecOn with
  | nil => exact ⟨.nil, by simp [linesWarnings]⟩
  | append_singleton before line ih =>
    have hline : OrderedBetween (reportedUpTo setting before)
        -- what the line adds lies behind all that has been reported
        (reportedUpTo setting (before ++ [line])) (lineWarnings setting before line) := by
      cases hmarked : Directive.isMarked line with
      | true => exact lineWarnings_between_of_isMarked hmarked
      | false => exact lineWarnings_between_of_not_isMarked hmarked
    rw [linesWarnings_concat, List.nil_append]
    exact ih.append hline (Nat.zero_le _) (reportedUpTo_concat setting before line)

end TutorialPages.Layout
