import TutorialPages.Markdown.InlineReader
import TutorialPages.Markdown.Sheet

/-!
# Writing inlines

Inlines become HTML from left to right. In the words that stand for a picture there are no tags,
except those that the document itself holds.
-/

namespace TutorialPages.Markdown

/-- Where an inline stands. -/
structure Place where
  /-- Whether it belongs to the words that stand for a picture. -/
  inPicture : Bool
  /-- Whether it lies inside a link. -/
  inLink : Bool
  deriving DecidableEq, Repr

namespace Footnote

/-- What the identifiers of footnotes begin with. -/
def clobber : Text := "user-content-"

/-- The name of a footnote as part of an identifier. -/
def identifier (name : Text) : Text :=
  Html.address (Text.toLower name)

/-- The call of a footnote: `number` is its place among the footnotes and `count` tells how often it
has been called with this call. -/
def callHtml (name : Text) (number count : Nat) : Text :=
  .join ["<sup><a href=\"#", clobber, "fn-", identifier name, "\" id=\"", clobber, "fnref-",
    identifier name, if 1 < count then '-' :: Text.ofNat count else [],
    "\" data-footnote-ref=\"\" aria-describedby=\"footnote-label\">", Text.ofNat number,
    "</a></sup>"]

/-- The link back to one of the calls of a footnote, counted from one. -/
def backHtml (name : Text) (count : Nat) : Text :=
  .join ["<a href=\"#", clobber, "fnref-", identifier name,
    if 1 < count then '-' :: Text.ofNat count else [],
    "\" data-footnote-backref=\"\" aria-label=\"Back to content\" class=\"data-footnote-backref\">↩",
    if 1 < count then .join ["<sup>", Text.ofNat count, "</sup>"] else [], "</a>"]

end Footnote

namespace Inline

/-- Writes tags, but not in a picture's words. -/
def pushTags (place : Place) (tags : Text) (sheet : Sheet) : Sheet :=
  if place.inPicture then sheet else sheet.push tags

/-- The tag for a stress. -/
def stressTag : Stress → Text
  | .emphasis => "em"
  | .strong => "strong"
  | .deletion => "del"

/-- The attribute for the title of a target. -/
def titleAttribute (target : Target) : Text :=
  match target.title with
  | some title => .join [" title=\"", Html.encode title, "\""]
  | none => []

/-- A piece of HTML that is passed through. -/
def passedHtml (dialect : Dialect) (value : Text) : Text :=
  let value := Html.passThrough value
  if dialect.gfm then Html.filterTags value else value

/-- Writes an address as a link to itself. -/
def writeAddress (place : Place) (bare : Bool) (protocol value : Text) (sheet : Sheet) : Sheet :=
  if bare then sheet.push (Html.encode value)
  else
    let address := Html.safeAddress Html.linkProtocols (protocol ++ value)
    sheet
      |> pushTags place (.join ["<a href=\"", address, "\">"])
      |>.push (Html.encode value)
      |> pushTags place "</a>"

mutual

/-- Writes an inline. -/
def write (dialect : Dialect) (place : Place) (sheet : Sheet) : Inline → Sheet
  | .text value => sheet.push (Html.encode value)
  | .decoded value => sheet.push (Html.encode value)
  | .ending raw => sheet.pushEnding raw
  | .hardBreak => pushTags place "<br />" sheet
  | .code value =>
    sheet
      |> pushTags place "<code>"
      |>.push (Html.encode value)
      |> pushTags place "</code>"
  | .html value => sheet.push (passedHtml dialect value)
  | .stressed stress children =>
    let sheet := pushTags place (.join ["<", stressTag stress, ">"]) sheet
    let sheet := writeAll dialect place sheet children
    pushTags place (.join ["</", stressTag stress, ">"]) sheet
  | .link target children =>
    let address := Html.safeAddress Html.linkProtocols (Html.passThrough target.address)
    let tag := .join ["<a href=\"", address, "\"", titleAttribute target, ">"]
    let sheet := pushTags place tag sheet
    let sheet := writeAll dialect { place with inLink := true } sheet children
    pushTags place "</a>" sheet
  | .image target children =>
    let address := Html.safeAddress Html.imageProtocols (Html.passThrough target.address)
    let sheet := pushTags place (.join ["<img src=\"", address, "\" alt=\""]) sheet
    let sheet := writeAll dialect { place with inPicture := true } sheet children
    pushTags place (.join ["\"", titleAttribute target, " />"]) sheet
  | .autolink protocol value => writeAddress place false protocol value sheet
  | .literalLink protocol value => writeAddress place place.inLink protocol value sheet
  | .footnoteCall name =>
    let sheet := sheet.call name
    let (number, count) := sheet.callOf name
    pushTags place (Footnote.callHtml name number count) sheet

/-- Writes inlines in order. -/
def writeAll (dialect : Dialect) (place : Place) (sheet : Sheet) : List Inline → Sheet
  | [] => sheet
  | inline :: rest => writeAll dialect place (write dialect place sheet inline) rest

end

end Inline

end TutorialPages.Markdown
