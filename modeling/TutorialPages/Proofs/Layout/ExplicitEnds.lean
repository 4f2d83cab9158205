import TutorialPages.Proofs.Layout.Progress

/-!
# Pages that end explicitly

A page may end without an `END PAGE`, at the next `START PAGE` or with the lines. Here the missing
markers are written between the lines, and it is said which number each line has then.
-/

namespace TutorialPages

/-- Whether a warning is about a page that ends without `END PAGE`. -/
def Warning.isMissingEnd : Warning → Bool
  | .nestedStartPage .. => true
  | .unterminatedPage .. => true
  | _ => false

@[simp]
theorem Warning.isMissingEnd_nestedStartPage (location : Location) (openedAt : Nat) :
    (Warning.nestedStartPage location openedAt).isMissingEnd = true := rfl

@[simp]
theorem Warning.isMissingEnd_unterminatedPage (location : Location) :
    (Warning.unterminatedPage location).isMissingEnd = true := rfl

/-- The warnings about blocks are about something else. -/
theorem Warning.filter_map_warning (options : Options) (blocks : List Block) :
    (blocks.map (Block.warning options)).filter (!Warning.isMissingEnd ·) =
      blocks.map (Block.warning options) := by
  rw [List.filter_eq_self]
  intro warning hwarning
  obtain ⟨block, -, rfl⟩ := List.mem_map.mp hwarning
  rfl

namespace Layout

/-- The line that closes a page. -/
def endLine : Text := "-> END PAGE"

section Insertion

variable (files : FileSource) (base : Path)

/-- Whether a line is a `START PAGE` where the lines before leave a page open. -/
def isNestedStart (before : List Text) (line : Text) : Bool :=
  opensPage files base line && leavesOpen files base before

/-- The marker that is missing before a line. -/
def missingEnd (before : List Text) (line : Text) : List Text :=
  if isNestedStart files base before line then [endLine] else []

/-- Lines behind others, each with the marker that is missing before it. -/
def separate (before : List Text) : List Text → List Text
  | [] => []
  | line :: rest => missingEnd files base before line ++ line :: separate (before ++ [line]) rest

/-- The lines with an `END PAGE` for each page. -/
def withEnds (lines : List Text) : List Text :=
  separate files base [] lines ++ if leavesOpen files base lines then [endLine] else []

/-- How many markers are missing before the lines, where others come before. -/
def countMissing (before : List Text) : List Text → Nat
  | [] => 0
  | line :: rest =>
    (missingEnd files base before line).length + countMissing (before ++ [line]) rest

/-- The number of a line once the markers are there: it is raised by the number of those that have
been written before the line. -/
def newNumber (lines : List Text) (number : Nat) : Nat :=
  number + countMissing files base [] (lines.take number)

end Insertion

variable {files : FileSource} {base : Path}

/-! ## One more line -/

theorem missingEnd_of_nestedStart {before : List Text} {line : Text}
    (h : isNestedStart files base before line = true) :
    missingEnd files base before line = [endLine] := by
  rw [missingEnd, if_pos h]

theorem missingEnd_of_not_nestedStart {before : List Text} {line : Text}
    (h : isNestedStart files base before line = false) :
    missingEnd files base before line = [] := by
  rw [missingEnd, h]
  rfl

theorem separate_concat (before lines : List Text) (line : Text) :
    separate files base before (lines ++ [line]) =
      separate files base before lines ++ missingEnd files base (before ++ lines) line ++
        [line] := by
  induction lines generalizing before with
  | nil => simp [separate]
  | cons first rest ih => simp [separate, ih]

theorem countMissing_concat (before lines : List Text) (line : Text) :
    countMissing files base before (lines ++ [line]) =
      countMissing files base before lines +
        (missingEnd files base (before ++ lines) line).length := by
  induction lines generalizing before with
  | nil => simp [countMissing]
  | cons first rest ih => simp [countMissing, ih, Nat.add_assoc]

/-! ## Numbers -/

/-- The lines and the markers together. -/
theorem length_separate (before lines : List Text) :
    (separate files base before lines).length =
      lines.length + countMissing files base before lines := by
  induction lines generalizing before with
  | nil => rfl
  | cons first rest ih =>
    simp only [separate, countMissing, List.length_append, List.length_cons, ih]
    omega

/-- The new number of a line is its place behind the lines before it and all markers. -/
theorem newNumber_of_split (files : FileSource) (base : Path) (before : List Text) (line : Text)
    (after : List Text) :
    newNumber files base (before ++ line :: after) (1 + before.length) =
      1 + (separate files base [] before ++ missingEnd files base before line).length := by
  have hfront : (before ++ line :: after).take (1 + before.length) = before ++ [line] := by
    rw [List.append_cons, Nat.add_comm, ← List.length_singleton, ← List.length_append]
    exact List.take_left
  rw [newNumber, hfront, countMissing_concat, List.length_append, length_separate,
    List.nil_append]
  omega

/-! ## The marker -/

theorem read_endLine (files : FileSource) (base : Path) :
    Directive.read files base endLine = pure .endPage := rfl

theorem isMarked_endLine : Directive.isMarked endLine = true := rfl

theorem closesPage_endLine (files : FileSource) (base : Path) :
    closesPage files base endLine = true := rfl

/-! ## Warnings -/

/-- Where no marker is missing, no line is warned about for it. -/
theorem filter_lineWarnings_of_not_nestedStart {setting : Setting} {before : List Text}
    {line : Text} (h : isNestedStart setting.files setting.base before line = false) :
    (lineWarnings setting before line).filter (!Warning.isMissingEnd ·) =
      lineWarnings setting before line := by
  rw [isNestedStart, leavesOpen_eq 1] at h
  rw [lineWarnings, List.filter_append, Warning.filter_map_warning]
  congr 1
  -- the place of the line is left: outside of any page the warning is about text
  cases hopen : openBody? setting.files setting.base 1 before with
  | none =>
    unfold placementWarning?
    dsimp only
    split
    · rfl
    · rfl
  | some body =>
    rw [hopen, Option.isSome_some, Bool.and_true] at h
    simp [placementWarning?, h]

end Layout

end TutorialPages
