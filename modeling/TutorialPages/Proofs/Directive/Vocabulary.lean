import TutorialPages.Directive.Keyword
import TutorialPages.Proofs.Text.LetterCase

/-!
# Words of a vocabulary

A token names a value of a vocabulary when its full uppercase form is the word for that value. In
the two vocabularies of conditions every value is listed under a word of its own, so a token is read
as the value that it names (`ofToken_eq_ok_iff`), and is refused when it names none
(`ofToken_eq_error_iff`).
-/

namespace TutorialPages.Vocabulary

/-- A token names a value: its full uppercase form is the word for it. -/
def Names {α : Type} [Vocabulary α] (token : Text) (value : α) : Prop :=
  Text.toUpper token = word value

instance {α : Type} [Vocabulary α] (token : Text) (value : α) : Decidable (Names token value) :=
  inferInstanceAs (Decidable (Text.toUpper token = word value))

/-- Every value is listed, and no two values share a word. -/
class IsFaithful (α : Type) [Vocabulary α] : Prop where
  mem_all (value : α) : value ∈ (all : List α)
  word_injective {value other : α} : word value = word other → value = other

instance : IsFaithful ResourceKind where
  mem_all value := by cases value <;> decide
  word_injective {value other} := by
    cases value <;> cases other <;> decide

instance : IsFaithful Operator where
  mem_all value := by cases value <;> decide
  word_injective {value other} := by
    cases value <;> cases other <;> decide

variable {α : Type} [Vocabulary α] {token token' : Text}

/-- The case of ASCII letters in a token does not matter. -/
theorem ofToken_congr (h : Text.sameWord token token' = true) :
    ofToken α token = ofToken α token' := by
  rw [ofToken, ofToken, Text.toUpper_congr h]

variable [IsFaithful α]

theorem Names.eq {value other : α} (h : Names token value) (hother : Names token other) :
    value = other :=
  IsFaithful.word_injective (h.symm.trans hother)

/-- A token is read as the value that it names, or it names none and is refused in upper case, with
the first word related to it. -/
theorem ofToken_cases (α : Type) [Vocabulary α] [IsFaithful α] (token : Text) :
    (∃ value : α, Names token value ∧ ofToken α token = .ok value) ∨
      (∀ value : α, ¬Names token value) ∧
        ofToken α token = .error (.unacceptedWord (field α) (Text.toUpper token)
          (related (Text.toUpper token) (words α)).head?) := by
  rw [ofToken]
  split
  · next found hfound =>
    have hword : word found = Text.toUpper token := by
      simpa using List.find?_some hfound
    exact .inl ⟨found, hword.symm, rfl⟩
  · next hnone =>
    refine .inr ⟨?_, rfl⟩
    -- the value would have been found, because it is listed
    intro value hnames
    have hother := List.find?_eq_none.mp hnone value (IsFaithful.mem_all value)
    rw [Names] at hnames
    simp [hnames] at hother

/-- A token is read as the value that it names. -/
theorem ofToken_eq_ok_iff {value : α} : ofToken α token = .ok value ↔ Names token value := by
  rcases ofToken_cases α token with ⟨found, hfound, hread⟩ | ⟨hnone, hread⟩
  · rw [hread]
    constructor
    · rintro ⟨⟩
      exact hfound
    · intro hnames
      -- two values that a token names are the same
      rw [hfound.eq hnames]
  · rw [hread]
    constructor
    · rintro ⟨⟩
    · intro hnames
      exact absurd hnames (hnone value)

/-- A token is refused when it names nothing. -/
theorem ofToken_eq_error_iff {problem : Problem} :
    ofToken α token = .error problem ↔
      (∀ value : α, ¬Names token value) ∧
        problem = .unacceptedWord (field α) (Text.toUpper token)
          (related (Text.toUpper token) (words α)).head? := by
  rcases ofToken_cases α token with ⟨found, hfound, hread⟩ | ⟨hnone, hread⟩
  · rw [hread]
    constructor
    · rintro ⟨⟩
    · rintro ⟨hnone, -⟩
      exact absurd hfound (hnone found)
  · rw [hread, Except.error.injEq, eq_comm]
    exact ⟨fun h => ⟨hnone, h⟩, And.right⟩

end TutorialPages.Vocabulary
