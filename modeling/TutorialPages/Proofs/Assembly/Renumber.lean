import TutorialPages.Proofs.Assembly.Relocation

/-!
# Other numbers for the same lines

A line does the same under another number, with other pages and warnings before it: to give lines
other numbers is one way to move them to other places. What a line does is thus decided by the page
that is open before it.
-/

namespace TutorialPages

/-! ## Replacing line numbers -/

/-- The location of the same line under another number. -/
def Location.renumber (f : Nat → Nat) (location : Location) : Location :=
  { location with line := f location.line }

/-- The warning about the same lines under other numbers. -/
def Warning.renumber (f : Nat → Nat) : Warning → Warning
  | .contentOutsidePage location => .contentOutsidePage (location.renumber f)
  | .nestedStartPage location openedAt => .nestedStartPage (location.renumber f) (f openedAt)
  | .unterminatedPage location => .unterminatedPage (location.renumber f)
  | .unclosedCodeFence location marker => .unclosedCodeFence (location.renumber f) marker

/-- The failure on the same line under another number. -/
def Failure.renumber (f : Nat → Nat) (failure : Failure) : Failure :=
  { failure with location := failure.location.renumber f }

/-- The assembly of the same lines under other numbers, behind the pages and warnings of another. -/
def Assembly.renumber (assembly : Assembly) (f : Nat → Nat) (front : Assembly) : Assembly where
  current := assembly.current.map (OpenPage.renumber f)
  pages := front.pages ++ assembly.pages
  warnings := front.warnings ++ assembly.warnings.map (Warning.renumber f)

theorem Warning.renumber_eq_relocate (f : Nat → Nat) :
    Warning.renumber f = Warning.relocate ⟨id, f⟩ := by
  funext warning
  cases warning <;> rfl

/-- Under other numbers the document keeps its name. -/
theorem Assembly.renumber_eq_relocate (assembly : Assembly) (f : Nat → Nat) (front : Assembly) :
    assembly.renumber f front = assembly.relocate ⟨id, f⟩ front := by
  rw [Assembly.renumber, Warning.renumber_eq_relocate]
  rfl

namespace Assembly

open Traced

variable {f : Nat → Nat}

/-- A line does the same under another number. -/
theorem feed_renumber (setting : Setting) (f : Nat → Nat) (front : Assembly) (number : Nat)
    (line : Text) (assembly : Assembly) :
    Matches Eq (fun value value' => value' = value.renumber f front)
      (feed setting number line assembly)
      (feed setting (f number) line (assembly.renumber f front)) := by
  have hline := feed_relocate setting ⟨id, f⟩ front number line assembly
  simp only [← renumber_eq_relocate] at hline
  exact hline

/-! ## The open page is all that counts -/

/-- Two assemblies go on alike from two others: the same page is open in both up to the numbers, and
both have taken up the same pages and the same warnings. -/
structure GoesOnAlike (f : Nat → Nat) (assembly assembly' next next' : Assembly) : Prop where
  current : next'.current = next.current.map (OpenPage.renumber f)
  appended : ∃ pages warnings,
    next.pages = assembly.pages ++ pages ∧ next'.pages = assembly'.pages ++ pages ∧
    next.warnings = assembly.warnings ++ warnings ∧
    next'.warnings = assembly'.warnings ++ warnings.map (Warning.renumber f)

/-- An assembly is one that has nothing but its open page, behind its pages and warnings. -/
theorem eq_renumber_of_current {assembly assembly' : Assembly}
    (hcurrent : assembly'.current = assembly.current.map (OpenPage.renumber f)) :
    Assembly.renumber ⟨assembly.current, [], []⟩ f assembly' = assembly' := by
  simp [Assembly.renumber, ← hcurrent]

/-- What a line does depends on the open page alone: two assemblies with the same open page, up to
the numbers, go on alike. -/
theorem feed_of_current (setting : Setting) (number : Nat) (line : Text)
    {assembly assembly' : Assembly}
    (hcurrent : assembly'.current = assembly.current.map (OpenPage.renumber f)) :
    Matches Eq (GoesOnAlike f assembly assembly') (feed setting number line assembly)
      (feed setting (f number) line assembly') := by
  have hpage : OpenPage.renumber id = id := by
    funext page
    obtain ⟨draft, tracker, pending⟩ := page
    cases pending <;> rfl
  have hwarning : Warning.renumber id = id := by
    funext warning
    cases warning <;> rfl
  -- both are compared with the assembly that has the open page and nothing else
  have hleft := feed_renumber setting id assembly number line ⟨assembly.current, [], []⟩
  have hright := feed_renumber setting f assembly' number line ⟨assembly.current, [], []⟩
  rw [eq_renumber_of_current (by rw [hpage, Option.map_id_fun, id])] at hleft
  rw [eq_renumber_of_current hcurrent] at hright
  refine (hleft.span hright).imp ?_ ?_
  · rintro _ _ ⟨problem, rfl, rfl⟩
    rfl
  · rintro _ _ ⟨next, rfl, rfl⟩
    refine ⟨?_, next.pages, next.warnings, rfl, rfl, ?_, rfl⟩
    · simp [Assembly.renumber, hpage]
    · simp [Assembly.renumber, hwarning]

end Assembly

end TutorialPages
