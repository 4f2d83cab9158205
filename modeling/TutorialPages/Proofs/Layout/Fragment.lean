import Mathlib.Data.List.TakeWhile
import TutorialPages.Image
import TutorialPages.Proofs.Fence.Line
import TutorialPages.Proofs.Layout.PageBody

/-!
# The fragments of a page

The text of a page stands between its directive lines. Such a run of text lines is cut into
fragments, each of which is rendered at once: when blocks are grouped, a fenced block with all its
lines is one fragment, and any other line that is not blank is a fragment by itself.

The cut is made from the front, as far as each block reaches. The main law, `cutRun_concat`, says
what one more line at the end changes: at most the block that is not closed yet.
-/

namespace TutorialPages

/-! ## Lines that refer to images -/

/-- A blank line refers to no image. -/
theorem isReference_of_allBlank {line : Text} (h : Text.allBlank line = true) :
    Image.isReference line = false := by
  induction line with
  | nil => rfl
  | cons c rest ih =>
    -- an exclamation mark is not blank, so the mark of an image begins nowhere
    simp only [Text.allBlank, List.all_cons, Bool.and_eq_true] at h
    have hmark : c ≠ '!' := by
      rintro rfl
      exact absurd h.1 (by decide)
    have hprefix : ['!', '['].isPrefixOf (c :: rest) = false := by
      simp [List.isPrefixOf, hmark.symm]
    have hrest : Text.occursIn ['!', '['] rest = false := ih h.2
    rw [Image.isReference, Text.occursIn, hprefix, hrest, Bool.or_self]

/-! ## Blocks and fragments -/

/-- A fenced block. -/
structure Block where
  /-- The number of the line with the opening fence. -/
  openedAt : Nat
  fence : Fence
  /-- The line with the opening fence. -/
  opener : Text
  /-- The lines behind it, with that of the closing fence if there is one. -/
  others : List Text
  deriving DecidableEq, Repr

namespace Block

/-- All lines of the block. -/
def lines (block : Block) : List Text :=
  block.opener :: block.others

/-- The lines with line feeds between them. -/
def source (block : Block) : Text :=
  Text.joinWith ['\n'] block.lines

/-- The block with one more line. -/
def concat (block : Block) (line : Text) : Block :=
  { block with others := block.others ++ [line] }

/-- Whether no line behind the opening fence closes it. -/
def isUnclosed (block : Block) : Bool :=
  block.others.all (!block.fence.closes ·)

@[simp]
theorem lines_concat (block : Block) (line : Text) :
    (block.concat line).lines = block.lines ++ [line] := rfl

theorem isUnclosed_concat (block : Block) (line : Text) :
    (block.concat line).isUnclosed = (block.isUnclosed && !block.fence.closes line) := by
  simp [isUnclosed, concat]

/-- One more line comes behind one more line feed. -/
theorem source_concat (block : Block) (line : Text) :
    (block.concat line).source = block.source ++ '\n' :: line := by
  have hjoin : ∀ first : Text, ∀ others : List Text,
      Text.joinWith ['\n'] (first :: (others ++ [line])) =
        Text.joinWith ['\n'] (first :: others) ++ '\n' :: line := by
    intro first others
    induction others generalizing first with
    | nil => simp [Text.joinWith]
    | cons second others ih => simp [Text.joinWith, ih]
  exact hjoin block.opener block.others

end Block

/-- What is rendered at once. -/
inductive Fragment where
  /-- A line by itself. -/
  | line (text : Text)
  /-- A fenced block. -/
  | block (block : Block)
  deriving DecidableEq, Repr

namespace Fragment

/-- The lines of a fragment. -/
def lines : Fragment → List Text
  | .line text => [text]
  | .block given => given.lines

/-- What the renderer is given. -/
def source : Fragment → Text
  | .line text => text
  | .block given => given.source

/-- Whether a fragment is a block without a closing fence. -/
def isUnclosed : Fragment → Bool
  | .line _ => false
  | .block given => given.isUnclosed

end Fragment

/-- The fragments of a run of text lines. -/
structure Cut where
  /-- The fragments before the block that the run breaks off, if it does. -/
  settled : List Fragment
  /-- The block at the end of the run that has no closing fence. -/
  unclosed : Option Block
  deriving DecidableEq, Repr

/-- All fragments of a run in their order. -/
def Cut.fragments (cut : Cut) : List Fragment :=
  cut.settled ++ cut.unclosed.toList.map .block

/-- The cut with one more fragment in front. -/
def Cut.cons (fragment : Fragment) (cut : Cut) : Cut :=
  { cut with settled := fragment :: cut.settled }

@[simp]
theorem Cut.fragments_cons (fragment : Fragment) (cut : Cut) :
    (cut.cons fragment).fragments = fragment :: cut.fragments := rfl

namespace Layout

/-- A line with its number. -/
abbrev NumberedLine := Text × Nat

/-! ## Cutting a run -/

/-- Cuts a run into blocks and single lines. A block reaches to the first line that closes its
fence, or to the end of the run. -/
def groupedCut : List NumberedLine → Cut
  | [] => ⟨[], none⟩
  | (line, number) :: rest =>
    if Text.allBlank line then groupedCut rest
    else match Fence.opener? line with
      | none => (groupedCut rest).cons (.line line)
      | some fence =>
        let inside := rest.takeWhile fun line => !fence.closes line.1
        match _h : rest.dropWhile fun line => !fence.closes line.1 with
        | [] => ⟨[], some ⟨number, fence, line, inside.map Prod.fst⟩⟩
        | closer :: others =>
          (groupedCut others).cons
            (.block ⟨number, fence, line, inside.map Prod.fst ++ [closer.1]⟩)
termination_by run => run.length
decreasing_by
  all_goals simp only [List.length_cons]
  · omega
  · omega
  · have hdrop := List.length_dropWhile_le (fun line => !fence.closes line.1) rest
    rw [_h, List.length_cons] at hdrop
    omega

/-- Cuts a run into single lines. -/
def singleCut (run : List NumberedLine) : Cut :=
  ⟨(run.filter fun line => !Text.allBlank line.1).map fun line => .line line.1, none⟩

/-- Cuts a run of text lines into fragments. -/
def cutRun (grouped : Bool) (run : List NumberedLine) : Cut :=
  if grouped then groupedCut run else singleCut run

@[simp]
theorem cutRun_nil (grouped : Bool) : cutRun grouped [] = ⟨[], none⟩ := by
  cases grouped with
  | true => simp [cutRun, groupedCut]
  | false => rfl

/-! ## The cut of a run by its front -/

section Front

variable {line : Text} {number : Nat} {rest : List NumberedLine}

theorem groupedCut_blank (hblank : Text.allBlank line = true) :
    groupedCut ((line, number) :: rest) = groupedCut rest := by
  rw [groupedCut]
  simp [hblank]

theorem groupedCut_line (hblank : Text.allBlank line = false)
    (hopener : Fence.opener? line = none) :
    groupedCut ((line, number) :: rest) = (groupedCut rest).cons (.line line) := by
  rw [groupedCut]
  simp [hblank, hopener]

variable {fence : Fence}

theorem groupedCut_unclosed (hblank : Text.allBlank line = false)
    (hopener : Fence.opener? line = some fence)
    (hrest : ∀ later ∈ rest, fence.closes later.1 = false) :
    groupedCut ((line, number) :: rest) =
      ⟨[], some ⟨number, fence, line, rest.map Prod.fst⟩⟩ := by
  -- no line of the rest ends the run of lines inside, so all of them are inside
  have hdrop : rest.dropWhile (fun line => !fence.closes line.1) = [] := by
    simpa using hrest
  have htake : rest.takeWhile (fun line => !fence.closes line.1) = rest := by
    simpa using hrest
  rw [groupedCut]
  simp only [hblank, hopener, htake, Bool.false_eq_true, ↓reduceIte]
  split
  · rfl
  · next h => simp [hdrop] at h

theorem groupedCut_block {inside others : List NumberedLine} {closer : NumberedLine}
    (hblank : Text.allBlank line = false) (hopener : Fence.opener? line = some fence)
    (hinside : ∀ later ∈ inside, fence.closes later.1 = false)
    (hcloser : fence.closes closer.1 = true) :
    groupedCut ((line, number) :: (inside ++ closer :: others)) =
      (groupedCut others).cons
        (.block ⟨number, fence, line, inside.map Prod.fst ++ [closer.1]⟩) := by
  -- the lines inside end with the first that closes the fence
  have hpos : ∀ later ∈ inside, (!fence.closes later.1) = true := by
    simpa using hinside
  have hdrop : (inside ++ closer :: others).dropWhile (fun line => !fence.closes line.1) =
      closer :: others := by
    rw [List.dropWhile_append_of_pos hpos]
    simp [hcloser]
  have htake : (inside ++ closer :: others).takeWhile (fun line => !fence.closes line.1) =
      inside := by
    rw [List.takeWhile_append_of_pos hpos]
    simp [hcloser]
  rw [groupedCut]
  simp only [hblank, hopener, htake, Bool.false_eq_true, ↓reduceIte]
  split
  · next h => simp [hdrop] at h
  · next h =>
    rw [hdrop] at h
    cases h
    rfl

end Front

example : groupedCut [("a".toList, 4), ("```".toList, 5), ("b".toList, 6)] =
    ⟨[.line "a".toList], some ⟨5, ⟨'`', 3⟩, "```".toList, ["b".toList]⟩⟩ := by
  decide +kernel

/-- The lines behind an opening fence either all lie inside the block, or are cut by the first
that closes it. -/
theorem none_closes_or_first_closes (fence : Fence) (rest : List NumberedLine) :
    (∀ later ∈ rest, fence.closes later.1 = false) ∨
      ∃ inside closer others, rest = inside ++ closer :: others ∧
        (∀ later ∈ inside, fence.closes later.1 = false) ∧ fence.closes closer.1 = true := by
  induction rest with
  | nil => exact .inl (by simp)
  | cons first rest ih =>
    -- either this line is the first that closes, or the first lies in the rest
    cases hfirst : fence.closes first.1 with
    | true => exact .inr ⟨[], first, rest, rfl, by simp, hfirst⟩
    | false =>
      rcases ih with hnone | ⟨inside, closer, others, rfl, hinside, hcloser⟩
      · exact .inl (by simpa [hfirst] using hnone)
      · exact .inr ⟨first :: inside, closer, others, rfl, by simpa [hfirst] using hinside, hcloser⟩

/-- Induction along the cut of a run: over its blank lines, single lines and blocks. -/
theorem run_induction {motive : List NumberedLine → Prop} (nil : motive [])
    (blank : ∀ line number rest, Text.allBlank line = true → motive rest →
      motive ((line, number) :: rest))
    (single : ∀ line number rest, Text.allBlank line = false → Fence.opener? line = none →
      motive rest → motive ((line, number) :: rest))
    (unclosed : ∀ line number rest fence, Text.allBlank line = false →
      Fence.opener? line = some fence → (∀ later ∈ rest, fence.closes later.1 = false) →
      motive ((line, number) :: rest))
    (block : ∀ line number inside closer others fence, Text.allBlank line = false →
      Fence.opener? line = some fence → (∀ later ∈ inside, fence.closes later.1 = false) →
      fence.closes closer.1 = true → motive others →
      motive ((line, number) :: (inside ++ closer :: others)))
    (run : List NumberedLine) : motive run := by
  match run with
  | [] => exact nil
  | (line, number) :: rest =>
    -- what is cut next is never longer than the rest behind the first line
    have ih : ∀ shorter : List NumberedLine, shorter.length ≤ rest.length → motive shorter :=
      fun shorter _ => run_induction nil blank single unclosed block shorter
    cases hblank : Text.allBlank line with
    | true => exact blank line number rest hblank (ih rest (Nat.le_refl _))
    | false =>
      cases hopener : Fence.opener? line with
      | none => exact single line number rest hblank hopener (ih rest (Nat.le_refl _))
      | some fence =>
        rcases none_closes_or_first_closes fence rest with
          hnone | ⟨inside, closer, others, hrest, hinside, hcloser⟩
        · exact unclosed line number rest fence hblank hopener hnone
        · subst hrest
          refine block line number inside closer others fence hblank hopener hinside hcloser ?_
          exact ih others (by simp only [List.length_append, List.length_cons]; omega)
termination_by run.length

/-! ## The cut of a run by its end -/

end Layout

/-- The cut of a run that goes on with one more line: the line belongs to the block that is not
closed yet, or it is looked at by itself. -/
def Cut.concat (grouped : Bool) (cut : Cut) (line : Layout.NumberedLine) : Cut :=
  match cut.unclosed with
  | some block =>
    if block.fence.closes line.1 then ⟨cut.settled ++ [.block (block.concat line.1)], none⟩
    else ⟨cut.settled, some (block.concat line.1)⟩
  | none =>
    if Text.allBlank line.1 then cut
    else match if grouped then Fence.opener? line.1 else none with
      | some fence => ⟨cut.settled, some ⟨line.2, fence, line.1, []⟩⟩
      | none => ⟨cut.settled ++ [.line line.1], none⟩

theorem Cut.concat_cons (grouped : Bool) (fragment : Fragment) (cut : Cut)
    (line : Layout.NumberedLine) :
    (cut.cons fragment).concat grouped line = (cut.concat grouped line).cons fragment := by
  obtain ⟨settled, unclosed⟩ := cut
  cases unclosed with
  -- a block is open in both cuts, or in neither
  | some block =>
    simp only [concat, cons]
    split
    · rfl
    · rfl
  | none =>
    simp only [concat, cons]
    split
    · rfl
    · split
      · rfl
      · rfl

namespace Layout

theorem groupedCut_concat (run : List NumberedLine) (line : NumberedLine) :
    groupedCut (run ++ [line]) = (groupedCut run).concat true line := by
  -- the cut walks down the run; the new line matters where the run comes to its end
  induction run using run_induction with
  | nil =>
    obtain ⟨line, number⟩ := line
    cases hblank : Text.allBlank line with
    | true => simp [groupedCut_blank hblank, groupedCut, Cut.concat, hblank]
    | false =>
      cases hopener : Fence.opener? line with
      | none => simp [groupedCut_line hblank hopener, groupedCut, Cut.concat, Cut.cons, hblank,
          hopener]
      | some fence =>
        simp [groupedCut_unclosed hblank hopener, groupedCut, Cut.concat, hblank, hopener]
  | blank first number rest hblank ih =>
    rw [List.cons_append, groupedCut_blank hblank, groupedCut_blank hblank, ih]
  | single first number rest hblank hopener ih =>
    rw [List.cons_append, groupedCut_line hblank hopener, groupedCut_line hblank hopener, ih,
      Cut.concat_cons]
  | unclosed first number rest fence hblank hopener hrest =>
    rw [List.cons_append, groupedCut_unclosed hblank hopener hrest]
    -- the new line is the closing fence that was missing, or one more line of the block
    cases hcloses : fence.closes line.1 with
    | true =>
      rw [groupedCut_block hblank hopener hrest hcloses]
      simp [groupedCut, Cut.concat, Cut.cons, Block.concat, hcloses]
    | false =>
      have hall : ∀ later ∈ rest ++ [line], fence.closes later.1 = false := by
        simp only [List.mem_append, List.mem_singleton]
        rintro later (hlater | rfl)
        · exact hrest later hlater
        · exact hcloses
      rw [groupedCut_unclosed hblank hopener hall]
      simp [Cut.concat, Block.concat, hcloses]
  | block first number inside closer others fence hblank hopener hinside hcloser ih =>
    rw [List.cons_append, List.append_assoc, List.cons_append,
      groupedCut_block hblank hopener hinside hcloser,
      groupedCut_block hblank hopener hinside hcloser, ih, Cut.concat_cons]

/-- One more line at the end of a run changes at most the block that is not closed yet. -/
theorem cutRun_concat (grouped : Bool) (run : List NumberedLine) (line : NumberedLine) :
    cutRun grouped (run ++ [line]) = (cutRun grouped run).concat grouped line := by
  cases grouped with
  | true => exact groupedCut_concat run line
  | false =>
    cases hblank : Text.allBlank line.1 with
    | true => simp [cutRun, singleCut, Cut.concat, hblank]
    | false => simp [cutRun, singleCut, Cut.concat, hblank]

/-- The block at the end of a run has no closing fence. -/
theorem isUnclosed_of_cutRun {grouped : Bool} {run : List NumberedLine} {block : Block}
    (h : (cutRun grouped run).unclosed = some block) : block.isUnclosed = true := by
  cases grouped with
  | false => cases h
  | true =>
    simp only [cutRun, ↓reduceIte] at h
    -- the block comes from the place where no line closes the fence that has been opened
    induction run using run_induction with
    | nil => simp [groupedCut] at h
    | blank first number rest hblank ih =>
      rw [groupedCut_blank hblank] at h
      exact ih h
    | single first number rest hblank hopener ih =>
      rw [groupedCut_line hblank hopener] at h
      exact ih h
    | unclosed first number rest fence hblank hopener hrest =>
      rw [groupedCut_unclosed hblank hopener hrest] at h
      obtain rfl := Option.some.inj h
      simpa [Block.isUnclosed] using hrest
    | block first number inside closer others fence hblank hopener hinside hcloser ih =>
      rw [groupedCut_block hblank hopener hinside hcloser] at h
      exact ih h

/-! ## Nothing is lost -/

/-- The lines of the fragments stand in the run in the same order. -/
theorem lines_cutRun_sublist (grouped : Bool) (run : List NumberedLine) :
    ((cutRun grouped run).fragments.flatMap Fragment.lines).Sublist (run.map Prod.fst) := by
  cases grouped with
  -- without grouping the fragments are the visible lines themselves
  | false =>
    have hlines : (singleCut run).fragments.flatMap Fragment.lines =
        (run.filter fun line => !Text.allBlank line.1).map Prod.fst := by
      simp [singleCut, Cut.fragments, List.flatMap_map, Fragment.lines, ← List.map_eq_flatMap]
    simpa [cutRun, hlines] using List.filter_sublist.map Prod.fst
  | true =>
    simp only [cutRun, ↓reduceIte]
    -- with grouping each case of the cut drops a blank line or keeps the lines it takes
    induction run using run_induction with
    | nil => simp [groupedCut, Cut.fragments]
    | blank first number rest hblank ih =>
      rw [groupedCut_blank hblank]
      exact ih.cons first
    | single first number rest hblank hopener ih =>
      rw [groupedCut_line hblank hopener]
      exact ih.cons_cons first
    | unclosed first number rest fence hblank hopener hrest =>
      rw [groupedCut_unclosed hblank hopener hrest]
      simp [Cut.fragments, Fragment.lines, Block.lines]
    | block first number inside closer others fence hblank hopener hinside hcloser ih =>
      rw [groupedCut_block hblank hopener hinside hcloser]
      simpa [Fragment.lines, Block.lines] using ih

/-- Only blank lines of a run are left out of its fragments. -/
theorem filter_lines_cutRun (grouped : Bool) (run : List NumberedLine) :
    ((cutRun grouped run).fragments.flatMap Fragment.lines).filter (!Text.allBlank ·) =
      (run.map Prod.fst).filter (!Text.allBlank ·) := by
  cases grouped with
  | false =>
    simp [cutRun, singleCut, Cut.fragments, List.flatMap_map, Fragment.lines,
      ← List.map_eq_flatMap, List.filter_map, Function.comp_def]
  | true =>
    simp only [cutRun, ↓reduceIte]
    induction run using run_induction with
    | nil => simp [groupedCut, Cut.fragments]
    | blank first number rest hblank ih => simp [groupedCut_blank hblank, hblank, ih]
    | single first number rest hblank hopener ih =>
      simp [groupedCut_line hblank hopener, Fragment.lines, hblank, ih]
    | unclosed first number rest fence hblank hopener hrest =>
      simp [groupedCut_unclosed hblank hopener hrest, Cut.fragments, Fragment.lines, Block.lines,
        hblank]
    | block first number inside closer others fence hblank hopener hinside hcloser ih =>
      rw [groupedCut_block hblank hopener hinside hcloser]
      -- the line that closes the block is filtered alike on both sides
      cases hlast : Text.allBlank closer.1 with
      | true => simp [Fragment.lines, Block.lines, hblank, hlast, ih]
      | false => simp [Fragment.lines, Block.lines, hblank, hlast, ih]

end Layout

end TutorialPages
