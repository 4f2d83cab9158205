import Mathlib.Data.List.TakeWhile
import Mathlib.Tactic.SplitIfs
import TutorialPages.Fence

/-!
# Lines that open and close a fence

A line with a fence on it is at most three spaces, a run of equal marks, and some text behind the
run. Such a line opens a fence when the run is as long as the line allows and has three marks or
more, and it closes one when its run has at least as many of the same marks and nothing but blank
characters behind it. The recognizer of runs finds exactly these lines.
-/

namespace TutorialPages

namespace Fence

/-! ## Indentation -/

theorem column_le_indentation (column : Nat) (text : Text) :
    column ≤ (indentation column text).1 := by
  fun_induction indentation column text with
  | case1 column rest ih => exact Nat.le_of_succ_le ih
  | case2 column rest ih => exact Nat.le_trans (Nat.le_add_right _ _) ih
  | case3 column rest => exact Nat.le_refl column

/-- Spaces take up a column each. -/
theorem indentation_replicate_append (column count : Nat) (rest : Text) :
    indentation column (List.replicate count ' ' ++ rest) = indentation (column + count) rest := by
  induction count generalizing column with
  | zero => rfl
  | succ count ih =>
    rw [List.replicate_succ, List.cons_append, indentation, ih, Nat.add_assoc, Nat.add_comm 1]

/-- A text that begins with neither a space nor a tab is not indented. -/
theorem indentation_of_head?_ne {text : Text} (column : Nat) (hspace : text.head? ≠ some ' ')
    (htab : text.head? ≠ some '\t') : indentation column text = (column, text) := by
  fun_cases indentation column text with
  | case1 rest => exact absurd rfl hspace
  | case2 rest => exact absurd rfl htab
  | case3 => rfl

/-- Nothing but spaces takes up three columns or fewer, since a tab reaches the fourth. -/
theorem eq_replicate_append_of_indentation {column : Nat} {text : Text}
    (hcolumns : (indentation column text).1 ≤ 3) :
    text = List.replicate ((indentation column text).1 - column) ' ' ++
      (indentation column text).2 := by
  fun_induction indentation column text with
  -- a space takes up one column, and what follows it the others
  | case1 column rest ih =>
    have hle := column_le_indentation (column + 1) rest
    have hcount : (indentation (column + 1) rest).1 - column =
        (indentation (column + 1) rest).1 - (column + 1) + 1 := by omega
    rw [hcount, List.replicate_succ, List.cons_append, ← ih hcolumns]
  -- a tab would reach the fourth column
  | case2 column rest ih =>
    have hle := column_le_indentation (column + (4 - column % 4)) rest
    omega
  | case3 column rest => rw [Nat.sub_self, List.replicate_zero, List.nil_append]

/-! ## Runs of marks -/

/-- A run at the front of a text goes on as far as its mark does. -/
theorem run_eq_iff {mark : Char} {count : Nat} {text after : Text} :
    (text.takeWhile (· == mark)).length = count ∧ text.drop count = after ↔
      text = List.replicate count mark ++ after ∧ after.head? ≠ some mark := by
  constructor
  · rintro ⟨rfl, rfl⟩
    have htext : text.takeWhile (· == mark) ++ text.dropWhile (· == mark) = text :=
      List.takeWhile_append_dropWhile
    have hrun : text.takeWhile (· == mark) =
        List.replicate (text.takeWhile (· == mark)).length mark :=
      List.eq_replicate_of_mem fun c hc => by simpa using List.mem_takeWhile_imp hc
    have hdrop : text.drop (text.takeWhile (· == mark)).length = text.dropWhile (· == mark) := by
      have hleft := @List.drop_left _ (text.takeWhile (· == mark)) (text.dropWhile (· == mark))
      rwa [htext] at hleft
    -- what is left when the marks are taken does not begin with one more
    have hstop := List.head?_dropWhile_not (· == mark) text
    rw [hdrop, ← hrun]
    refine ⟨htext.symm, fun hhead => ?_⟩
    rw [hhead] at hstop
    simp at hstop
  · rintro ⟨rfl, hhead⟩
    -- the rest begins with something else, so nothing of it belongs to the run
    have hstop : after.takeWhile (· == mark) = [] := by
      cases after with
      | nil => rfl
      | cons c after =>
        apply List.takeWhile_cons_of_neg
        intro hc
        exact hhead (congrArg some (eq_of_beq hc))
    have hrun : (List.replicate count mark ++ after).takeWhile (· == mark) =
        List.replicate count mark := by
      rw [List.takeWhile_append_of_pos (by simp), hstop, List.append_nil]
    rw [hrun, List.length_replicate]
    exact ⟨rfl, List.drop_left' List.length_replicate⟩

/-- A mark that is not in a class of characters does not occur among them. -/
theorem notMem_of_all {isTail : Char → Bool} {mark : Char} {after : Text}
    (hmark : isTail mark = false) (hall : after.all isTail = true) : mark ∉ after := by
  intro hmem
  have htail := List.all_eq_true.1 hall mark hmem
  rw [hmark] at htail
  cases htail

/-! ## A line with a fence on it -/

/-- A fence that can be open: three grave accents or tildes, or more. -/
structure Proper (fence : Fence) : Prop where
  marker : fence.marker = '`' ∨ fence.marker = '~'
  length : 3 ≤ fence.length

/-- The line consists of at most three spaces, the marks of the fence, and `after`. -/
def StandsOn (fence : Fence) (line after : Text) : Prop :=
  ∃ indent ≤ 3, line =
    List.replicate indent ' ' ++ (List.replicate fence.length fence.marker ++ after)

/-- The line opens the fence: the marks are a whole run, and no grave accent follows a run of
them. -/
def Opening (fence : Fence) (line : Text) : Prop :=
  fence.Proper ∧ ∃ after, fence.StandsOn line after ∧ after.head? ≠ some fence.marker ∧
    (fence.marker = '`' → '`' ∉ after)

/-- The line holds at least as many of the same marks as the fence, and behind them nothing but
characters of one class. -/
def ClosingWith (isTail : Char → Bool) (fence : Fence) (line : Text) : Prop :=
  ∃ count after, fence.length ≤ count ∧ StandsOn ⟨fence.marker, count⟩ line after ∧
    after.all isTail = true

/-- The line closes the fence: it ends in blank characters. -/
abbrev Closing (fence : Fence) (line : Text) : Prop :=
  fence.ClosingWith isBlank line

namespace Proper

theorem marker_ne_space {fence : Fence} (h : fence.Proper) : fence.marker ≠ ' ' := by
  obtain hmarker | hmarker := h.marker <;> rw [hmarker] <;> decide

theorem marker_ne_tab {fence : Fence} (h : fence.Proper) : fence.marker ≠ '\t' := by
  obtain hmarker | hmarker := h.marker <;> rw [hmarker] <;> decide

theorem isBlank_marker {fence : Fence} (h : fence.Proper) : isBlank fence.marker = false := by
  obtain hmarker | hmarker := h.marker <;> rw [hmarker] <;> decide

theorem exists_length_eq {fence : Fence} (h : fence.Proper) : ∃ count, fence.length = count + 1 :=
  Nat.exists_eq_add_one.2 (Nat.lt_of_lt_of_le (by decide) h.length)

end Proper

/-- The indentation of a line with a fence on it is the spaces before the fence. -/
theorem StandsOn.indentation {fence : Fence} {line after : Text} (h : fence.Proper)
    (hline : fence.StandsOn line after) :
    (Fence.indentation 0 line).1 ≤ 3 ∧
      (Fence.indentation 0 line).2 = List.replicate fence.length fence.marker ++ after := by
  obtain ⟨indent, hindent, rfl⟩ := hline
  obtain ⟨count, hcount⟩ := h.exists_length_eq
  have hhead : (List.replicate fence.length fence.marker ++ after).head? = some fence.marker := by
    rw [hcount, List.replicate_succ, List.cons_append, List.head?_cons]
  rw [indentation_replicate_append, indentation_of_head?_ne, Nat.zero_add]
  · exact ⟨hindent, rfl⟩
  · rw [hhead]
    exact fun hspace => h.marker_ne_space (Option.some.inj hspace)
  · rw [hhead]
    exact fun htab => h.marker_ne_tab (Option.some.inj htab)

/-- A line that is indented by at most three columns is spaces and what follows them. -/
theorem standsOn_of_indentation {fence : Fence} {line after : Text}
    (hcolumns : (Fence.indentation 0 line).1 ≤ 3)
    (hrest : (Fence.indentation 0 line).2 = List.replicate fence.length fence.marker ++ after) :
    fence.StandsOn line after := by
  refine ⟨(Fence.indentation 0 line).1, hcolumns, ?_⟩
  have hline := eq_replicate_append_of_indentation hcolumns
  rwa [hrest, Nat.sub_zero] at hline

theorem standsOn_iff {fence : Fence} {line after : Text} (h : fence.Proper) :
    fence.StandsOn line after ↔ (Fence.indentation 0 line).1 ≤ 3 ∧
      (Fence.indentation 0 line).2 = List.replicate fence.length fence.marker ++ after :=
  ⟨StandsOn.indentation h, fun hline => standsOn_of_indentation hline.1 hline.2⟩

/-- The recognizer finds the whole run of marks behind at most three spaces. -/
theorem run?_eq_some_iff {fence : Fence} {line after : Text} :
    run? line = some (fence, after) ↔
      fence.Proper ∧ fence.StandsOn line after ∧ after.head? ≠ some fence.marker ∧
        (fence.marker = '`' → '`' ∉ after) := by
  constructor
  · intro hrun
    -- there is a run only where all three tests succeed
    unfold run? at hrun
    dsimp only at hrun
    split_ifs at hrun with hcolumns
    split at hrun
    · cases hrun
    rename_i rest mark tail hrest
    split_ifs at hrun with hfence
    obtain ⟨hmark, hlength, hinfo⟩ := hfence
    obtain ⟨rfl, rfl⟩ := Prod.mk.inj (Option.some.inj hrun)
    obtain ⟨hline, hhead⟩ := run_eq_iff.1 ⟨rfl, rfl⟩
    have hproper : Proper ⟨mark, _⟩ := ⟨hmark, hlength⟩
    refine ⟨hproper, (standsOn_iff hproper).2 ⟨by omega, hline⟩, hhead, ?_⟩
    exact fun hgrave hmem => hinfo ⟨hgrave, hmem⟩
  · rintro ⟨hproper, hline, hhead, hinfo⟩
    -- all three tests succeed, so the run is the one that was written
    obtain ⟨hcolumns, hrest⟩ := (standsOn_iff hproper).1 hline
    obtain ⟨count, hcount⟩ := hproper.exists_length_eq
    have hcons : (Fence.indentation 0 line).2 =
        fence.marker :: (List.replicate count fence.marker ++ after) := by
      rw [hrest, hcount, List.replicate_succ, List.cons_append]
    obtain ⟨hlength, hdrop⟩ := run_eq_iff.2 ⟨hrest, hhead⟩
    rw [hcons] at hlength hdrop
    unfold run?
    dsimp only
    rw [if_neg (by omega), hcons]
    dsimp only
    rw [hlength, hdrop, if_pos]
    exact ⟨hproper.marker, hproper.length, fun hgrave => hinfo hgrave.1 hgrave.2⟩

/-! ## The lines that open and close -/

/-- The fence that a line opens where none is open. -/
def opener? (line : Text) : Option Fence :=
  (run? line).map Prod.fst

/-- Whether a line closes the fence. -/
def closes (fence : Fence) (line : Text) : Bool :=
  (run? line).any fun (run, after) => fence.closedBy run after

theorem opener?_eq_some_iff {fence : Fence} {line : Text} :
    opener? line = some fence ↔ fence.Opening line := by
  rw [opener?, Option.map_eq_some_iff]
  constructor
  · rintro ⟨⟨run, after⟩, hrun, rfl⟩
    obtain ⟨hproper, hline⟩ := run?_eq_some_iff.1 hrun
    exact ⟨hproper, after, hline⟩
  · rintro ⟨hproper, after, hline⟩
    exact ⟨(fence, after), run?_eq_some_iff.2 ⟨hproper, hline⟩, rfl⟩

/-- A line opens one fence at most. -/
theorem Opening.unique {first second : Fence} {line : Text} (hfirst : first.Opening line)
    (hsecond : second.Opening line) : first = second := by
  rw [← opener?_eq_some_iff] at hfirst hsecond
  rw [hfirst] at hsecond
  exact Option.some.inj hsecond

/-- A proper fence is closed by the lines that are written that way. What follows their marks is
blank, so it neither goes on with the run nor holds a grave accent. -/
theorem closes_iff {fence : Fence} {line : Text} (h : fence.Proper) :
    fence.closes line = true ↔ fence.Closing line := by
  rw [closes, Option.any_eq_true]
  constructor
  · rintro ⟨⟨run, after⟩, hrun, hcloses⟩
    obtain ⟨-, hline, -⟩ := run?_eq_some_iff.1 hrun
    simp only [closedBy, Bool.and_eq_true, beq_iff_eq, decide_eq_true_eq] at hcloses
    obtain ⟨⟨hmarker, hlength⟩, hblank⟩ := hcloses
    refine ⟨run.length, after, hlength, ?_, hblank⟩
    rw [← hmarker]
    exact hline
  -- what is blank holds no mark, so the run ends where the line says
  · rintro ⟨count, after, hlength, hline, hblank⟩
    have hmarker : fence.marker ∉ after := notMem_of_all h.isBlank_marker hblank
    refine ⟨(⟨fence.marker, count⟩, after), run?_eq_some_iff.2 ⟨?_, hline, ?_, ?_⟩, ?_⟩
    · exact ⟨h.marker, Nat.le_trans h.length hlength⟩
    · exact fun hhead => hmarker (List.mem_of_mem_head? hhead)
    · intro hgrave
      rwa [← hgrave]
    · simp [closedBy, hlength, Text.allBlank, hblank]

end Fence

/-- Where no fence is open, a line opens one or lies outside. -/
theorem FenceTracker.observe_start (line : Text) :
    FenceTracker.observe FenceTracker.start line =
      match Fence.opener? line with
      | some fence => (.opened, some fence)
      | none => (.outside, none) := by
  cases h : Fence.run? line with
  | none => simp [observe, start, Fence.opener?, h]
  | some run => simp [observe, start, Fence.opener?, h]

/-- Where a fence is open, a line closes it or lies inside. -/
theorem FenceTracker.observe_open (fence : Fence) (line : Text) :
    FenceTracker.observe (some fence) line =
      if fence.closes line then (.closed, none) else (.inside, some fence) := by
  cases h : Fence.run? line with
  | none => simp [observe, Fence.closes, h]
  | some run => simp [observe, Fence.closes, h]

end TutorialPages
