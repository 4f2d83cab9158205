import TutorialPages.Text.Blank
import TutorialPages.Text.LetterCase

/-!
# Slugs

The anchor of a heading is its text, trimmed and in lower case, without punctuation, and with a
hyphen in place of each blank character. Hyphens and underscores stay; equal headings have equal
slugs.
-/

namespace TutorialPages.Slug

/-- Whether a character has no place in a slug: the ASCII punctuation other than hyphen and
underscore, and the blocks General Punctuation and Supplemental Punctuation. -/
def isDropped (c : Char) : Bool :=
  (0x2000 ≤ c.toNat && c.toNat ≤ 0x206F) || (0x2E00 ≤ c.toNat && c.toNat ≤ 0x2E7F) ||
    "\\'!\"#$%&()*+,./:;<=>?@[]^`\x7b|\x7d~".toList.contains c

/-- What becomes of one lowercase character. -/
def mapChar? (c : Char) : Option Char :=
  if isDropped c then none
  else if isBlank c then some '-'
  else some c

/-- The slug of a heading's text. -/
def ofText (text : Text) : Text :=
  (Text.toLower (Text.trim text)).filterMap mapChar?

end TutorialPages.Slug
