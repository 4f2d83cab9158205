import TutorialPages.Markdown.Character

/-!
# Autolinks

An address between angle brackets is a link: an address with a protocol, or the address of an
electronic mailbox.
-/

namespace TutorialPages.Markdown.Autolink

/-- Whether a character may stand in the name of a protocol. -/
def isSchemeChar (c : Char) : Bool :=
  c.isAlphanum || c == '+' || c == '-' || c == '.'

/-- Whether a character may stand in an address with a protocol. -/
def isAddressChar (c : Char) : Bool :=
  !(isControl c || c == ' ' || c == '<' || c == '>')

/-- Whether a character may stand in the name of a mailbox. -/
def isMailboxChar (c : Char) : Bool :=
  c.isAlphanum || "#$%&'*+-./=?^_`\x7b|\x7d~".toList.contains c

/-- An address with a protocol and what follows the closing bracket. -/
def address? (text : Text) : Option (Text × Text) :=
  let scheme := text.takeWhile isSchemeChar
  if !(text.head?.any Char.isAlpha) ∨ scheme.length < 2 ∨ 32 < scheme.length then none
  else match text.drop scheme.length with
    | ':' :: rest =>
      let path := rest.takeWhile isAddressChar
      match rest.drop path.length with
      | '>' :: after => some (scheme ++ ':' :: path, after)
      | _ => none
    | _ => none

/-- What follows the closing bracket behind labels with dots between them. A label has at most 63
letters, digits and hyphens, and neither begins nor ends with a hyphen. `fuel` bounds the number of
labels. -/
def afterLabels? : Nat → Text → Option Text
  | 0, _ => none
  | fuel + 1, text =>
    let label := text.takeWhile fun c => c.isAlphanum || c == '-'
    if label.head?.all (· == '-') ∨ label.getLast?.all (· == '-') ∨ 63 < label.length then none
    else match text.drop label.length with
      | '>' :: after => some after
      | '.' :: rest => afterLabels? fuel rest
      | _ => none

/-- The address of a mailbox and what follows the closing bracket. -/
def mailbox? (text : Text) : Option (Text × Text) :=
  let name := text.takeWhile isMailboxChar
  match text.drop name.length with
  | '@' :: rest =>
    if name = [] then none
    else (afterLabels? (rest.length + 1) rest).map fun after =>
      (text.take (text.length - after.length - 1), after)
  | _ => none

/-- The link that opens with a bracket, with the protocol that is left out, and what follows it,
given what follows the bracket. -/
def read? (text : Text) : Option ((Text × Text) × Text) :=
  match address? text with
  | some (address, after) => some (([], address), after)
  | none => (mailbox? text).map fun (address, after) => (("mailto:".toList, address), after)

end TutorialPages.Markdown.Autolink
