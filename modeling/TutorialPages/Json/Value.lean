import TutorialPages.Text.Integer

/-!
# JSON values

The values of JSON that a compiled lesson needs: texts, integers, arrays, and objects whose members
keep the order in which they are given.
-/

namespace TutorialPages

/-- A JSON value. -/
inductive Json where
  /-- A text. -/
  | text (value : Text)
  /-- An integer. -/
  | integer (value : Int)
  /-- An array. -/
  | array (items : List Json)
  /-- An object with its members in order. -/
  | object (members : List (Text × Json))
  deriving Inhabited

end TutorialPages
