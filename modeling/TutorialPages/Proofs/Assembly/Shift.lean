import TutorialPages.Proofs.Assembly.Relocation

/-!
# Lines further down

Lines do the same further down in a longer document, with other pages and warnings before them: the
same files are read, and the outcome is the same with the line numbers raised. To raise all numbers
alike is one way to replace them.
-/

namespace TutorialPages

/-! ## Raising line numbers -/

/-- The location a number of lines further down. -/
def Location.shift (k : Nat) (location : Location) : Location :=
  { location with line := location.line + k }

/-- The warning about lines further down. -/
def Warning.shift (k : Nat) : Warning → Warning
  | .contentOutsidePage location => .contentOutsidePage (location.shift k)
  | .nestedStartPage location openedAt => .nestedStartPage (location.shift k) (openedAt + k)
  | .unterminatedPage location => .unterminatedPage (location.shift k)
  | .unclosedCodeFence location marker => .unclosedCodeFence (location.shift k) marker

/-- The failure of the same line further down. -/
def Failure.shift (k : Nat) (failure : Failure) : Failure :=
  { failure with location := failure.location.shift k }

/-- The block opened further down. -/
def PendingFence.shift (k : Nat) (pending : PendingFence) : PendingFence :=
  { pending with openedAt := pending.openedAt + k }

/-- The page opened further down. -/
def OpenPage.shift (k : Nat) (page : OpenPage) : OpenPage where
  draft := { page.draft with openedAt := page.draft.openedAt + k }
  tracker := page.tracker
  pending := page.pending.map (PendingFence.shift k)

/-- The assembly of lines further down, behind the pages and warnings of another. -/
def Assembly.shift (assembly : Assembly) (k : Nat) (front : Assembly) : Assembly where
  current := assembly.current.map (OpenPage.shift k)
  pages := front.pages ++ assembly.pages
  warnings := front.warnings ++ assembly.warnings.map (Warning.shift k)

/-- The place further down in the same document. -/
def Relocation.down (k : Nat) : Relocation :=
  ⟨id, (· + k)⟩

theorem Warning.shift_eq_relocate (k : Nat) : Warning.shift k = Warning.relocate (.down k) := by
  funext warning
  cases warning <;> rfl

theorem Assembly.shift_eq_relocate (assembly : Assembly) (k : Nat) (front : Assembly) :
    assembly.shift k front = assembly.relocate (.down k) front := by
  rw [Assembly.shift, Warning.shift_eq_relocate]
  rfl

namespace Assembly

open Traced

variable {setting : Setting} {front : Assembly}

/-! ## Runs further down -/

/-- Lines do the same further down, and where they fail, they fail further down. -/
theorem feedAll_shift (setting : Setting) (k : Nat) (front : Assembly) (number : Nat)
    (lines : List Text) (assembly : Assembly) :
    Matches (fun failure failure' => failure' = failure.shift k)
      (fun value value' => value' = value.shift k front)
      (feedAll setting number lines assembly)
      (feedAll setting (number + k) lines (assembly.shift k front)) := by
  have hlines := feedAll_relocate setting (.down k) front number lines assembly
    fun j _ => Nat.add_right_comm number j k
  simp only [← shift_eq_relocate] at hlines
  exact hlines

/-- The line that opened a page is found again behind other lines. -/
theorem getElem?_openedAt_down (before lines : List Text) {page : OpenPage}
    (hopened : 1 ≤ page.draft.openedAt) :
    (before ++ lines)[(Relocation.down before.length).line page.draft.openedAt - 1]? =
      lines[page.draft.openedAt - 1]? := by
  have hplace : (Relocation.down before.length).line page.draft.openedAt - 1 =
      before.length + (page.draft.openedAt - 1) := by
    show page.draft.openedAt + before.length - 1 = before.length + (page.draft.openedAt - 1)
    omega
  rw [hplace, List.getElem?_append_right (Nat.le_add_right _ _), Nat.add_sub_cancel_left]

/-- The end of a document is the same behind other lines. -/
theorem finish_shift (before lines : List Text) (assembly : Assembly)
    (hopened : ∀ page, assembly.current = some page → 1 ≤ page.draft.openedAt) :
    Matches (fun failure failure' => failure' = failure.shift before.length)
      (fun compiled compiled' => compiled' =
        ⟨⟨front.pages ++ compiled.document.pages⟩,
          front.warnings ++ compiled.warnings.map (Warning.shift before.length)⟩)
      (finish setting lines assembly)
      (finish setting (before ++ lines) (assembly.shift before.length front)) := by
  have hfinish := finish_relocate setting front fun page hcurrent =>
    getElem?_openedAt_down before lines (hopened page hcurrent)
  simp only [← shift_eq_relocate, ← Warning.shift_eq_relocate] at hfinish
  exact hfinish

end Assembly

end TutorialPages
