import TutorialPages.Markdown.Inline

/-!
# Literal links

Addresses become links without any marks: those that begin with `http://`, `https://` or `www.`,
and those of mailboxes. An address of the first kind reaches as far as a blank character or an
opening bracket of a tag; punctuation at its end does not belong to it, nor does a closing
parenthesis that it does not open.
-/

namespace TutorialPages.Markdown.LiteralLink

/-- Whether punctuation at the end of an address does not belong to it. -/
def isTrailing (c : Char) : Bool :=
  "!\"')*,.:;?_~".toList.contains c

/-- Whether nothing but punctuation is left before the end of an address. `next` is what follows the
text in the document, which has to be blank, too. -/
def isTrail (next : Option Char) : Nat → Text → Bool
  | _, [] => next.all isBlank
  | 0, _ => false
  | fuel + 1, c :: rest =>
    if isTrailing c then isTrail next fuel rest
    else if c = '&' then
      let name := rest.takeWhile Char.isAlpha
      match rest.drop name.length with
      | ';' :: after => name ≠ [] && isTrail next fuel after
      | _ => false
    else if c = ']' then
      match rest with
      | [] => true
      | d :: _ => isGap d || d == '(' || d == '[' || isTrail next fuel rest
    else c == '<' || isBlank c

/-- The length of a path: `opened` and `closed` count its parentheses so far. -/
def pathLength (next : Option Char) (opened closed : Nat) : Text → Nat
  | [] => 0
  | c :: rest =>
    if c = '(' then 1 + pathLength next (opened + 1) closed rest
    else if isTrailing c ∨ c = '&' ∨ c = '<' ∨ c = ']' then
      if !(c == ')' && closed < opened) && isTrail next (rest.length + 1) (c :: rest) then 0
      else 1 + pathLength next opened (if c = ')' then closed + 1 else closed) rest
    else if isBlank c then 0
    else 1 + pathLength next opened closed rest

/-- The length of a domain, and whether it is one: it holds something besides dots, underscores and
hyphens, and no underscore in its last two parts. `last` and `previous` say whether there is one in
the part that is being read and in the one before. -/
def domainLength? (next : Option Char) (seen last previous : Bool) : Text → Option Nat
  | [] => if seen && !last && !previous then some 0 else none
  | c :: rest =>
    if c = '.' ∨ c = '_' then
      if isTrail next (rest.length + 1) (c :: rest) then
        if seen && !last && !previous then some 0 else none
      else if c = '_' then (domainLength? next seen true previous rest).map (1 + ·)
      else (domainLength? next seen false last rest).map (1 + ·)
    else if c = '-' then (domainLength? next seen last previous rest).map (1 + ·)
    else if CharClass.of (some c) = .other then
      (domainLength? next true last previous rest).map (1 + ·)
    else if seen && !last && !previous then some 0
    else none

/-- The length of a domain with the path behind it. -/
def addressLength? (next : Option Char) (text : Text) : Option Nat :=
  (domainLength? next false false false text).map fun length =>
    length + pathLength next 0 0 (text.drop length)

/-- Whether an address that begins with `www.` may follow a character. -/
def mayPrecedeWww : Option Char → Bool
  | none => true
  | some c => isGap c || "(*_[]~".toList.contains c

/-- The length of an address that begins with a protocol. -/
def protocolLength? (previous next : Option Char) (text : Text) : Option Nat :=
  if previous.any Char.isAlpha then none
  else
    let lower := (text.take 8).map Char.toLower
    let length := if ("http://".toList).isPrefixOf lower then 7
      else if ("https://".toList).isPrefixOf lower then 8
      else 0
    if length = 0 then none
    else (addressLength? next (text.drop length)).map (length + ·)

/-- The length of an address that begins with `www.`, which counts as a part of its domain. -/
def wwwLength? (previous next : Option Char) (text : Text) : Option Nat :=
  if mayPrecedeWww previous ∧ (text.take 4).map Char.toLower = "www.".toList ∧ 4 < text.length then
    addressLength? next text
  else none

/-- The literal link at the start of a text, and what follows it. `previous` is the character before
the text and `next` the one behind it. -/
def read? (previous next : Option Char) (text : Text) : Option (Inline × Text) :=
  match protocolLength? previous next text with
  | some length => some (.literalLink [] (text.take length), text.drop length)
  | none => (wwwLength? previous next text).map fun length =>
    (.literalLink "http://".toList (text.take length), text.drop length)

/-! ## Mailboxes -/

/-- Whether a character may stand in the name of a mailbox. -/
def isMailboxChar (c : Char) : Bool :=
  c.isAlphanum || c == '+' || c == '-' || c == '.' || c == '_'

/-- The length of the domain of a mailbox: it holds a dot and ends in a letter. -/
def mailDomainLength? (withSlash : Bool) (text : Text) : Option Nat :=
  let domain := scan text
  if '.' ∈ domain ∧ domain.getLast?.any Char.isAlpha then some domain.length else none
where
  /-- The letters, digits, hyphens and underscores, and the dots that a letter or a digit follows,
  at the start of a text. -/
  scan : Text → Text
    | [] => []
    | c :: rest =>
      if c.isAlphanum ∨ c = '-' ∨ c = '_' ∨ withSlash ∧ c = '/' then c :: scan rest
      else if c = '.' ∧ rest.head?.any Char.isAlphanum then c :: scan rest
      else []

/-- Takes the name of a mailbox, and a protocol before it, from the end of a reversed text. Gives
the protocol that has to be added, whether a slash may stand in the domain, the name, and the rest
of the reversed text. -/
def mailName? (before : Text) : Option (Text × Bool × Text × Text) :=
  let name := before.takeWhile isMailboxChar
  let rest := before.drop name.length
  if name = [] ∨ rest.head? = some '/' then none
  else
    let plain := ("mailto:".toList, false, name.reverse, rest)
    match rest with
    | ':' :: more =>
      let protocol := more.takeWhile Char.isAlphanum
      let word := (protocol.reverse).map Char.toLower
      let written := (name ++ ':' :: protocol).reverse
      if word = "mailto".toList then some ([], false, written, more.drop protocol.length)
      else if word = "xmpp".toList then some ([], true, written, more.drop protocol.length)
      else some plain
    | _ => some plain

/-- Turns the mailboxes of a text into links. `before` is the reversed text since the last link. -/
def mailLinks : Nat → Text → Text → List Inline
  | 0, before, rest => [.text (before.reverse ++ rest)]
  | _, before, [] => if before = [] then [] else [.text before.reverse]
  | fuel + 1, before, c :: rest =>
    let found := if c = '@' then
        match mailName? before with
        | some (protocol, withSlash, name, outer) =>
          (mailDomainLength? withSlash rest).map fun length => (protocol, name, outer, length)
        | none => none
      else none
    match found with
    | none => mailLinks fuel (c :: before) rest
    | some (protocol, name, outer, length) =>
      let link := .literalLink protocol (name ++ '@' :: rest.take length)
      let after := mailLinks fuel [] (rest.drop length)
      if outer = [] then link :: after else .text outer.reverse :: link :: after

/-- Turns the mailboxes in the text of inlines into links, outside of links. -/
def withMailLinks : List Inline → List Inline
  | [] => []
  | .text value :: rest => mailLinks value.length [] value ++ withMailLinks rest
  | .stressed stress children :: rest =>
    .stressed stress (withMailLinks children) :: withMailLinks rest
  | .image target children :: rest => .image target (withMailLinks children) :: withMailLinks rest
  | inline :: rest => inline :: withMailLinks rest

end TutorialPages.Markdown.LiteralLink
