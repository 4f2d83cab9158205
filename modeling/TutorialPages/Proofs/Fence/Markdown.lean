import TutorialPages.Markdown.Outline.LeafReader
import TutorialPages.Proofs.Fence.Tracking

/-!
# Closing lines and Markdown

In CommonMark only spaces and tabs may follow the marks that close a fenced block, and that is how
the reader of Markdown ends one. A tracker lets any blank characters follow. Main statement: the two
agree on the lines on which every blank character is a space or a tab, and on no other line that a
tracker takes for the end of a block; so a block that ends in a no-break space is handed over as
closed and read as unclosed.
-/

namespace TutorialPages

/-! ## Indentation -/

/-- A cursor counts the columns of the indentation, and taking them leaves what follows it. -/
theorem Markdown.Cursor.indentation_eq (column taken : Nat) (text : Text) :
    Fence.indentation column text = (column + columnsOf column text,
      (take (columnsOf column text) column taken text).rest) := by
  fun_induction Fence.indentation column text generalizing taken with
  | case1 column rest ih =>
    rw [ih 0, columnsOf, take, if_neg (by omega), Nat.add_sub_cancel_left, Nat.add_assoc]
  | case2 column rest ih =>
    -- both sides let a tab reach the next multiple of four
    have hcolumns : column + (4 - column % 4) + columnsOf (column + (4 - column % 4)) rest =
        column + columnsOf column ('\t' :: rest) := Nat.add_assoc ..
    have htake : take (columnsOf column ('\t' :: rest)) column taken ('\t' :: rest) =
        take (columnsOf (column + (4 - column % 4)) rest) (column + (4 - column % 4)) 0 rest := by
      rw [columnsOf, take, if_neg (by omega), Nat.add_sub_cancel_left]
      rfl
    rw [ih 0, hcolumns, htake]
  | case3 column text hspace htab =>
    have hcolumns : columnsOf column text = 0 := by
      rw [columnsOf]
      · exact hspace
      · exact htab
    have htake : take 0 column taken text = ⟨column, 0, text⟩ := by
      rw [take]
      · exact hspace
      · exact htab
    rw [hcolumns, htake, Nat.add_zero]

theorem Markdown.Cursor.indent_start (line : Text) :
    (start line).indent = (Fence.indentation 0 line).1 := by
  rw [indentation_eq 0 0 line, Nat.zero_add]
  rfl

theorem Markdown.Cursor.rest_skipAll_start (line : Text) :
    (start line).skipAll.rest = (Fence.indentation 0 line).2 := by
  rw [indentation_eq 0 0 line]
  rfl

namespace Fence

theorem Proper.isSpace_marker {fence : Fence} (h : fence.Proper) :
    Markdown.isSpace fence.marker = false := by
  obtain hmarker | hmarker := h.marker <;> rw [hmarker] <;> decide

/-- The reader of Markdown ends a block with a line on which spaces and tabs follow the marks. -/
theorem closesFence_start_iff {fence : Fence} {line : Text} (h : fence.Proper) :
    Markdown.LeafReader.closesFence fence (Markdown.Cursor.start line) = true ↔
      fence.ClosingWith Markdown.isSpace line := by
  rw [Markdown.LeafReader.closesFence, Markdown.Cursor.indent_start,
    Markdown.Cursor.rest_skipAll_start]
  simp only [Bool.and_eq_true, decide_eq_true_eq]
  constructor
  -- the three tests of the reader are the three parts of the shape
  · rintro ⟨⟨hindent, hlength⟩, htail⟩
    obtain ⟨hrun, -⟩ := (@run_eq_iff fence.marker _ (indentation 0 line).2 _).1 ⟨rfl, rfl⟩
    exact ⟨_, _, hlength, standsOn_of_indentation hindent hrun, htail⟩
  · rintro ⟨count, after, hlength, hline, htail⟩
    have hproper : Proper ⟨fence.marker, count⟩ := ⟨h.marker, Nat.le_trans h.length hlength⟩
    obtain ⟨hindent, hrest⟩ := (standsOn_iff hproper).1 hline
    -- the marks end where the shape says, since no mark is a space or a tab
    have hhead : after.head? ≠ some fence.marker := fun hhead =>
      notMem_of_all h.isSpace_marker htail (List.mem_of_mem_head? hhead)
    obtain ⟨hrun, hdrop⟩ := run_eq_iff.2 ⟨hrest, hhead⟩
    rw [hrun, hdrop]
    exact ⟨⟨hindent, hlength⟩, htail⟩

/-- The lines that close a fence with spaces and tabs are those that close it and have no other
blank characters. -/
theorem closingWith_isSpace_iff {fence : Fence} {line : Text} (h : fence.Proper) :
    fence.ClosingWith Markdown.isSpace line ↔
      fence.Closing line ∧ ∀ c ∈ line, isBlank c = true → Markdown.isSpace c = true := by
  constructor
  · -- a blank character of the line is before the marks or behind them, for no mark is blank
    rintro ⟨count, after, hlength, ⟨indent, hindent, rfl⟩, htail⟩
    have hspace := List.all_eq_true.1 htail
    refine ⟨⟨count, after, hlength, ⟨indent, hindent, rfl⟩, ?_⟩, ?_⟩
    · rw [List.all_eq_true]
      intro c hc
      obtain hc | hc : c = ' ' ∨ c = '\t' := by simpa [Markdown.isSpace] using hspace c hc
      all_goals
        rw [hc]
        decide
    · intro c hc hblank
      rw [List.mem_append, List.mem_append] at hc
      obtain hc | hc | hc := hc
      · rw [List.eq_of_mem_replicate hc]
        decide
      · rw [List.eq_of_mem_replicate hc, h.isBlank_marker] at hblank
        cases hblank
      · exact hspace c hc
  -- a tail that is blank holds nothing but spaces and tabs, as the whole line does
  · rintro ⟨⟨count, after, hlength, hline, hblank⟩, hspace⟩
    refine ⟨count, after, hlength, hline, ?_⟩
    obtain ⟨indent, -, rfl⟩ := hline
    rw [List.all_eq_true] at hblank ⊢
    intro c hc
    exact hspace c (by simp [hc]) (hblank c hc)

end Fence

/-! ## The end of a block -/

namespace FenceTracker

variable {lines : List Text} {fence : Fence}

/-- Of the lines for which a tracker with an open fence observes the end of the block, those on
which every blank character is a space or a tab. -/
theorem closed_and_isSpace_iff (hproper : fence.Proper) (line : Text) :
    (observe (some fence) line).1 = .closed ∧
        (∀ c ∈ line, isBlank c = true → Markdown.isSpace c = true) ↔
      fence.ClosingWith Markdown.isSpace line := by
  rw [Fence.closingWith_isSpace_iff hproper, ← Fence.closes_iff hproper, observe_open]
  cases fence.closes line with
  | true => simp
  | false => simp

/-- Where a fence is open behind some lines, the reader of Markdown ends the block with the lines
for which the tracker observes the end and which hold no blank character but spaces and tabs. -/
theorem closesFence_iff (hopen : follow start lines = some fence) (line : Text) :
    Markdown.LeafReader.closesFence fence (Markdown.Cursor.start line) = true ↔
      ((follow start lines).observe line).1 = .closed ∧
        ∀ c ∈ line, isBlank c = true → Markdown.isSpace c = true := by
  have hproper := (run_follow lines).proper fence hopen
  rw [Fence.closesFence_start_iff hproper, hopen, closed_and_isSpace_iff hproper]

end FenceTracker

end TutorialPages
