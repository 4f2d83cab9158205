import TutorialPages.Diagnostic.Problem

/-!
# Words of a closed vocabulary

A word is accepted when its full uppercase form is a word of the vocabulary. Otherwise it is
rejected together with the first word of the vocabulary that is related to it, if there is one.
-/

namespace TutorialPages.Vocabulary

/-- The value whose word is the uppercase form of the token. -/
def ofToken (α : Type) [Vocabulary α] (token : Text) : Except Problem α :=
  let value := Text.toUpper token
  match (all : List α).find? fun candidate => word candidate == value with
  | some found => .ok found
  | none => .error (.unacceptedWord (field α) value (related value (words α)).head?)

end TutorialPages.Vocabulary
