import TutorialPages.Markdown.Target

/-!
# Inlines

What a paragraph, a heading or a cell holds: text, and the marks that give parts of it a meaning.
-/

namespace TutorialPages.Markdown

/-- How strongly a part of a text is emphasised. -/
inductive Stress where
  /-- One mark on either side. -/
  | emphasis
  /-- Two marks on either side. -/
  | strong
  /-- Tildes on either side. -/
  | deletion
  deriving DecidableEq, Repr

/-- A part of a text. -/
inductive Inline where
  /-- Text as it is written. -/
  | text (value : Text)
  /-- Text that an escape or a reference stands for. -/
  | decoded (value : Text)
  /-- The ending of a line. -/
  | ending (raw : Text)
  /-- A break of the line, which the ending of the line follows. -/
  | hardBreak
  /-- Code. -/
  | code (value : Text)
  /-- HTML that is passed through. -/
  | html (value : Text)
  /-- A part that is emphasised. -/
  | stressed (stress : Stress) (children : List Inline)
  /-- A part that leads somewhere. -/
  | link (target : Target) (children : List Inline)
  /-- A picture, with what stands for it in words. -/
  | image (target : Target) (children : List Inline)
  /-- An address between angle brackets, with the protocol that is left out. -/
  | autolink (protocol value : Text)
  /-- An address that stands in the text, with the protocol that is left out. -/
  | literalLink (protocol value : Text)
  /-- The call of a footnote, by the name that its label stands for. -/
  | footnoteCall (name : Text)
  deriving Inhabited

end TutorialPages.Markdown
