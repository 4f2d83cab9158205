import TutorialPages.Json.Value

/-!
# Printing JSON

Two forms of one value. The compact form has no space outside its texts. The indented form puts
each item and each member on a line of its own, four spaces deeper than the bracket that holds it,
and writes an empty array or object as two brackets side by side. Both write a text in the same
way: quotes, backslashes and the control characters below U+0020 are escaped and all else stands
for itself.
-/

namespace TutorialPages.Json

/-- The lowercase hexadecimal digit of a number below sixteen. -/
def hexDigit (n : Nat) : Char :=
  if n < 10 then Char.ofNat (48 + n) else Char.ofNat (87 + n)

/-- One character inside a quoted text. -/
def escape (c : Char) : Text :=
  if c = '"' then ['\\', '"']
  else if c = '\\' then ['\\', '\\']
  else if c = '\n' then ['\\', 'n']
  else if c = '\r' then ['\\', 'r']
  else if c = '\t' then ['\\', 't']
  else if c.toNat = 8 then ['\\', 'b']
  else if c.toNat = 12 then ['\\', 'f']
  else if c.toNat < 32 then ['\\', 'u', '0', '0', hexDigit (c.toNat / 16), hexDigit (c.toNat % 16)]
  else [c]

/-- A text between quotes. -/
def quote (value : Text) : Text :=
  '"' :: value.flatMap escape ++ ['"']

/-- A line feed and the spaces of the given depth. -/
def newline (depth : Nat) : Text :=
  '\n' :: List.replicate (4 * depth) ' '

mutual

/-- The form without spaces. -/
def compact : Json → Text
  | .text value => quote value
  | .integer value => Text.ofInt value
  | .array items => '[' :: compactItems items ++ [']']
  | .object members => '{' :: compactMembers members ++ ['}']

/-- The items of an array with commas between them. -/
def compactItems : List Json → Text
  | [] => []
  | [item] => compact item
  | item :: rest => compact item ++ ',' :: compactItems rest

/-- The members of an object with commas between them. -/
def compactMembers : List (Text × Json) → Text
  | [] => []
  | [(key, value)] => quote key ++ ':' :: compact value
  | (key, value) :: rest => quote key ++ ':' :: compact value ++ ',' :: compactMembers rest

end

mutual

/-- The indented form of a value that starts at the given depth. -/
def indentedAt (depth : Nat) : Json → Text
  | .text value => quote value
  | .integer value => Text.ofInt value
  | .array [] => ['[', ']']
  | .array (item :: rest) =>
    '[' :: indentedItems (depth + 1) (item :: rest) ++ newline depth ++ [']']
  | .object [] => ['{', '}']
  | .object (member :: rest) =>
    '{' :: indentedMembers (depth + 1) (member :: rest) ++ newline depth ++ ['}']

/-- The items of an array, each on a line of its own. -/
def indentedItems (depth : Nat) : List Json → Text
  | [] => []
  | [item] => newline depth ++ indentedAt depth item
  | item :: rest => newline depth ++ indentedAt depth item ++ ',' :: indentedItems depth rest

/-- The members of an object, each on a line of its own. -/
def indentedMembers (depth : Nat) : List (Text × Json) → Text
  | [] => []
  | [(key, value)] => newline depth ++ quote key ++ ':' :: ' ' :: indentedAt depth value
  | (key, value) :: rest =>
    newline depth ++ quote key ++ ':' :: ' ' :: indentedAt depth value ++
      ',' :: indentedMembers depth rest

end

/-- The indented form of a whole value. -/
def indented (value : Json) : Text :=
  indentedAt 0 value

end TutorialPages.Json
