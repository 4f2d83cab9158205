import TutorialPages.Slug

/-!
# Anchors of headings

When a fragment begins with a heading, the opening tag of that heading gets an identifier, the slug
of the heading's text. Nothing else of the HTML changes, and a heading without a slug stays as it
is.
-/

namespace TutorialPages

/-- A part of a heading's text, as far as its anchor depends on it. -/
inductive Phrase where
  /-- Text. -/
  | text (value : Text)
  /-- Code. -/
  | code (value : Text)
  /-- A formula. -/
  | math (value : Text)
  /-- Something that holds other parts, or nothing. -/
  | group (children : List Phrase)
  deriving Inhabited

namespace Phrase

mutual

/-- The text of a part. -/
def value : Phrase → Text
  | .text value | .code value | .math value => value
  | .group children => values children

/-- The texts of parts, one after another. -/
def values : List Phrase → Text
  | [] => []
  | phrase :: rest => value phrase ++ values rest

end

end Phrase

/-- A heading that a fragment begins with. -/
structure LeadingHeading where
  depth : Nat
  parts : List Phrase

namespace LeadingHeading

/-- The opening tag of a heading. -/
def openingTag (depth : Nat) : Text :=
  .join ["<h", Text.ofNat depth, ">"]

/-- The opening tag of a heading with an identifier. A slug holds neither quotes nor brackets nor
ampersands, so it is written as it is. -/
def anchoredTag (depth : Nat) (slug : Text) : Text :=
  .join ["<h", Text.ofNat depth, " id=\"", slug, "\">"]

/-- Puts the identifier of a heading into the HTML that begins with it. -/
def anchor (heading : LeadingHeading) (html : Text) : Text :=
  let slug := Slug.ofText (Phrase.values heading.parts)
  let opening := openingTag heading.depth
  if slug = [] then html
  else if opening.isPrefixOf html then anchoredTag heading.depth slug ++ html.drop opening.length
  else html

end LeadingHeading

/-- Puts an identifier into the HTML of a fragment that begins with a heading. -/
def anchorHeading (leading : Option LeadingHeading) (html : Text) : Text :=
  match leading with
  | some heading => heading.anchor html
  | none => html

end TutorialPages
