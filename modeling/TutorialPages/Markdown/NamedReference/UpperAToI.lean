/-!
# Named character references, capital A to I

The names that HTML gives to characters, each with the text it stands for. The names of a list all
begin with one letter, which is left out.
-/

namespace TutorialPages.Markdown.NamedReference

/-- The names that begin with a capital A. -/
def capitalA : List (String × String) := [
  ("Elig", "Æ"), ("MP", "&"), ("acute", "Á"), ("breve", "Ă"), ("circ", "Â"), ("cy", "А"),
  ("fr", "𝔄"), ("grave", "À"), ("lpha", "Α"), ("macr", "Ā"), ("nd", "⩓"), ("ogon", "Ą"),
  ("opf", "𝔸"), ("pplyFunction", "\u2061"), ("ring", "Å"), ("scr", "𝒜"), ("ssign", "≔"),
  ("tilde", "Ã"), ("uml", "Ä")]

/-- The names that begin with a capital B. -/
def capitalB : List (String × String) := [
  ("ackslash", "∖"), ("arv", "⫧"), ("arwed", "⌆"), ("cy", "Б"), ("ecause", "∵"),
  ("ernoullis", "ℬ"), ("eta", "Β"), ("fr", "𝔅"), ("opf", "𝔹"), ("reve", "˘"), ("scr", "ℬ"),
  ("umpeq", "≎")]

/-- The names that begin with a capital C. -/
def capitalC : List (String × String) := [
  ("Hcy", "Ч"), ("OPY", "©"), ("acute", "Ć"), ("ap", "⋒"), ("apitalDifferentialD", "ⅅ"),
  ("ayleys", "ℭ"), ("caron", "Č"), ("cedil", "Ç"), ("circ", "Ĉ"), ("conint", "∰"), ("dot", "Ċ"),
  ("edilla", "¸"), ("enterDot", "·"), ("fr", "ℭ"), ("hi", "Χ"), ("ircleDot", "⊙"),
  ("ircleMinus", "⊖"), ("irclePlus", "⊕"), ("ircleTimes", "⊗"), ("lockwiseContourIntegral", "∲"),
  ("loseCurlyDoubleQuote", "”"), ("loseCurlyQuote", "’"), ("olon", "∷"), ("olone", "⩴"),
  ("ongruent", "≡"), ("onint", "∯"), ("ontourIntegral", "∮"), ("opf", "ℂ"), ("oproduct", "∐"),
  ("ounterClockwiseContourIntegral", "∳"), ("ross", "⨯"), ("scr", "𝒞"), ("up", "⋓"),
  ("upCap", "≍")]

/-- The names that begin with a capital D. -/
def capitalD : List (String × String) := [
  ("D", "ⅅ"), ("Dotrahd", "⤑"), ("Jcy", "Ђ"), ("Scy", "Ѕ"), ("Zcy", "Џ"), ("agger", "‡"),
  ("arr", "↡"), ("ashv", "⫤"), ("caron", "Ď"), ("cy", "Д"), ("el", "∇"), ("elta", "Δ"),
  ("fr", "𝔇"), ("iacriticalAcute", "´"), ("iacriticalDot", "˙"), ("iacriticalDoubleAcute", "˝"),
  ("iacriticalGrave", "`"), ("iacriticalTilde", "˜"), ("iamond", "⋄"), ("ifferentialD", "ⅆ"),
  ("opf", "𝔻"), ("ot", "¨"), ("otDot", "\u20dc"), ("otEqual", "≐"),
  ("oubleContourIntegral", "∯"), ("oubleDot", "¨"), ("oubleDownArrow", "⇓"),
  ("oubleLeftArrow", "⇐"), ("oubleLeftRightArrow", "⇔"), ("oubleLeftTee", "⫤"),
  ("oubleLongLeftArrow", "⟸"), ("oubleLongLeftRightArrow", "⟺"), ("oubleLongRightArrow", "⟹"),
  ("oubleRightArrow", "⇒"), ("oubleRightTee", "⊨"), ("oubleUpArrow", "⇑"),
  ("oubleUpDownArrow", "⇕"), ("oubleVerticalBar", "∥"), ("ownArrow", "↓"), ("ownArrowBar", "⤓"),
  ("ownArrowUpArrow", "⇵"), ("ownBreve", "\u0311"), ("ownLeftRightVector", "⥐"),
  ("ownLeftTeeVector", "⥞"), ("ownLeftVector", "↽"), ("ownLeftVectorBar", "⥖"),
  ("ownRightTeeVector", "⥟"), ("ownRightVector", "⇁"), ("ownRightVectorBar", "⥗"),
  ("ownTee", "⊤"), ("ownTeeArrow", "↧"), ("ownarrow", "⇓"), ("scr", "𝒟"), ("strok", "Đ")]

/-- The names that begin with a capital E. -/
def capitalE : List (String × String) := [
  ("NG", "Ŋ"), ("TH", "Ð"), ("acute", "É"), ("caron", "Ě"), ("circ", "Ê"), ("cy", "Э"),
  ("dot", "Ė"), ("fr", "𝔈"), ("grave", "È"), ("lement", "∈"), ("macr", "Ē"),
  ("mptySmallSquare", "◻"), ("mptyVerySmallSquare", "▫"), ("ogon", "Ę"), ("opf", "𝔼"),
  ("psilon", "Ε"), ("qual", "⩵"), ("qualTilde", "≂"), ("quilibrium", "⇌"), ("scr", "ℰ"),
  ("sim", "⩳"), ("ta", "Η"), ("uml", "Ë"), ("xists", "∃"), ("xponentialE", "ⅇ")]

/-- The names that begin with a capital F. -/
def capitalF : List (String × String) := [
  ("cy", "Ф"), ("fr", "𝔉"), ("illedSmallSquare", "◼"), ("illedVerySmallSquare", "▪"),
  ("opf", "𝔽"), ("orAll", "∀"), ("ouriertrf", "ℱ"), ("scr", "ℱ")]

/-- The names that begin with a capital G. -/
def capitalG : List (String × String) := [
  ("Jcy", "Ѓ"), ("T", ">"), ("amma", "Γ"), ("ammad", "Ϝ"), ("breve", "Ğ"), ("cedil", "Ģ"),
  ("circ", "Ĝ"), ("cy", "Г"), ("dot", "Ġ"), ("fr", "𝔊"), ("g", "⋙"), ("opf", "𝔾"),
  ("reaterEqual", "≥"), ("reaterEqualLess", "⋛"), ("reaterFullEqual", "≧"),
  ("reaterGreater", "⪢"), ("reaterLess", "≷"), ("reaterSlantEqual", "⩾"), ("reaterTilde", "≳"),
  ("scr", "𝒢"), ("t", "≫")]

/-- The names that begin with a capital H. -/
def capitalH : List (String × String) := [
  ("ARDcy", "Ъ"), ("acek", "ˇ"), ("at", "^"), ("circ", "Ĥ"), ("fr", "ℌ"), ("ilbertSpace", "ℋ"),
  ("opf", "ℍ"), ("orizontalLine", "─"), ("scr", "ℋ"), ("strok", "Ħ"), ("umpDownHump", "≎"),
  ("umpEqual", "≏")]

/-- The names that begin with a capital I. -/
def capitalI : List (String × String) := [
  ("Ecy", "Е"), ("Jlig", "Ĳ"), ("Ocy", "Ё"), ("acute", "Í"), ("circ", "Î"), ("cy", "И"),
  ("dot", "İ"), ("fr", "ℑ"), ("grave", "Ì"), ("m", "ℑ"), ("macr", "Ī"), ("maginaryI", "ⅈ"),
  ("mplies", "⇒"), ("nt", "∬"), ("ntegral", "∫"), ("ntersection", "⋂"),
  ("nvisibleComma", "\u2063"), ("nvisibleTimes", "\u2062"), ("ogon", "Į"), ("opf", "𝕀"),
  ("ota", "Ι"), ("scr", "ℐ"), ("tilde", "Ĩ"), ("ukcy", "І"), ("uml", "Ï")]

end TutorialPages.Markdown.NamedReference
