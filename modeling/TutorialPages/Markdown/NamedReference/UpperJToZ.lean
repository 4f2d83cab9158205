/-!
# Named character references, capital J to Z

The names that HTML gives to characters, each with the text it stands for. The names of a list all
begin with one letter, which is left out.
-/

namespace TutorialPages.Markdown.NamedReference

/-- The names that begin with a capital J. -/
def capitalJ : List (String × String) := [
  ("circ", "Ĵ"), ("cy", "Й"), ("fr", "𝔍"), ("opf", "𝕁"), ("scr", "𝒥"), ("sercy", "Ј"),
  ("ukcy", "Є")]

/-- The names that begin with a capital K. -/
def capitalK : List (String × String) := [
  ("Hcy", "Х"), ("Jcy", "Ќ"), ("appa", "Κ"), ("cedil", "Ķ"), ("cy", "К"), ("fr", "𝔎"),
  ("opf", "𝕂"), ("scr", "𝒦")]

/-- The names that begin with a capital L. -/
def capitalL : List (String × String) := [
  ("Jcy", "Љ"), ("T", "<"), ("acute", "Ĺ"), ("ambda", "Λ"), ("ang", "⟪"), ("aplacetrf", "ℒ"),
  ("arr", "↞"), ("caron", "Ľ"), ("cedil", "Ļ"), ("cy", "Л"), ("eftAngleBracket", "⟨"),
  ("eftArrow", "←"), ("eftArrowBar", "⇤"), ("eftArrowRightArrow", "⇆"), ("eftCeiling", "⌈"),
  ("eftDoubleBracket", "⟦"), ("eftDownTeeVector", "⥡"), ("eftDownVector", "⇃"),
  ("eftDownVectorBar", "⥙"), ("eftFloor", "⌊"), ("eftRightArrow", "↔"), ("eftRightVector", "⥎"),
  ("eftTee", "⊣"), ("eftTeeArrow", "↤"), ("eftTeeVector", "⥚"), ("eftTriangle", "⊲"),
  ("eftTriangleBar", "⧏"), ("eftTriangleEqual", "⊴"), ("eftUpDownVector", "⥑"),
  ("eftUpTeeVector", "⥠"), ("eftUpVector", "↿"), ("eftUpVectorBar", "⥘"), ("eftVector", "↼"),
  ("eftVectorBar", "⥒"), ("eftarrow", "⇐"), ("eftrightarrow", "⇔"), ("essEqualGreater", "⋚"),
  ("essFullEqual", "≦"), ("essGreater", "≶"), ("essLess", "⪡"), ("essSlantEqual", "⩽"),
  ("essTilde", "≲"), ("fr", "𝔏"), ("l", "⋘"), ("leftarrow", "⇚"), ("midot", "Ŀ"),
  ("ongLeftArrow", "⟵"), ("ongLeftRightArrow", "⟷"), ("ongRightArrow", "⟶"),
  ("ongleftarrow", "⟸"), ("ongleftrightarrow", "⟺"), ("ongrightarrow", "⟹"), ("opf", "𝕃"),
  ("owerLeftArrow", "↙"), ("owerRightArrow", "↘"), ("scr", "ℒ"), ("sh", "↰"), ("strok", "Ł"),
  ("t", "≪")]

/-- The names that begin with a capital M. -/
def capitalM : List (String × String) := [
  ("ap", "⤅"), ("cy", "М"), ("ediumSpace", "\u205f"), ("ellintrf", "ℳ"), ("fr", "𝔐"),
  ("inusPlus", "∓"), ("opf", "𝕄"), ("scr", "ℳ"), ("u", "Μ")]

/-- The names that begin with a capital N. -/
def capitalN : List (String × String) := [
  ("Jcy", "Њ"), ("acute", "Ń"), ("caron", "Ň"), ("cedil", "Ņ"), ("cy", "Н"),
  ("egativeMediumSpace", "\u200b"), ("egativeThickSpace", "\u200b"),
  ("egativeThinSpace", "\u200b"), ("egativeVeryThinSpace", "\u200b"),
  ("estedGreaterGreater", "≫"), ("estedLessLess", "≪"), ("ewLine", "\x0a"), ("fr", "𝔑"),
  ("oBreak", "\u2060"), ("onBreakingSpace", "\u00a0"), ("opf", "ℕ"), ("ot", "⫬"),
  ("otCongruent", "≢"), ("otCupCap", "≭"), ("otDoubleVerticalBar", "∦"), ("otElement", "∉"),
  ("otEqual", "≠"), ("otEqualTilde", "≂\u0338"), ("otExists", "∄"), ("otGreater", "≯"),
  ("otGreaterEqual", "≱"), ("otGreaterFullEqual", "≧\u0338"), ("otGreaterGreater", "≫\u0338"),
  ("otGreaterLess", "≹"), ("otGreaterSlantEqual", "⩾\u0338"), ("otGreaterTilde", "≵"),
  ("otHumpDownHump", "≎\u0338"), ("otHumpEqual", "≏\u0338"), ("otLeftTriangle", "⋪"),
  ("otLeftTriangleBar", "⧏\u0338"), ("otLeftTriangleEqual", "⋬"), ("otLess", "≮"),
  ("otLessEqual", "≰"), ("otLessGreater", "≸"), ("otLessLess", "≪\u0338"),
  ("otLessSlantEqual", "⩽\u0338"), ("otLessTilde", "≴"), ("otNestedGreaterGreater", "⪢\u0338"),
  ("otNestedLessLess", "⪡\u0338"), ("otPrecedes", "⊀"), ("otPrecedesEqual", "⪯\u0338"),
  ("otPrecedesSlantEqual", "⋠"), ("otReverseElement", "∌"), ("otRightTriangle", "⋫"),
  ("otRightTriangleBar", "⧐\u0338"), ("otRightTriangleEqual", "⋭"),
  ("otSquareSubset", "⊏\u0338"), ("otSquareSubsetEqual", "⋢"), ("otSquareSuperset", "⊐\u0338"),
  ("otSquareSupersetEqual", "⋣"), ("otSubset", "⊂\u20d2"), ("otSubsetEqual", "⊈"),
  ("otSucceeds", "⊁"), ("otSucceedsEqual", "⪰\u0338"), ("otSucceedsSlantEqual", "⋡"),
  ("otSucceedsTilde", "≿\u0338"), ("otSuperset", "⊃\u20d2"), ("otSupersetEqual", "⊉"),
  ("otTilde", "≁"), ("otTildeEqual", "≄"), ("otTildeFullEqual", "≇"), ("otTildeTilde", "≉"),
  ("otVerticalBar", "∤"), ("scr", "𝒩"), ("tilde", "Ñ"), ("u", "Ν")]

/-- The names that begin with a capital O. -/
def capitalO : List (String × String) := [
  ("Elig", "Œ"), ("acute", "Ó"), ("circ", "Ô"), ("cy", "О"), ("dblac", "Ő"), ("fr", "𝔒"),
  ("grave", "Ò"), ("macr", "Ō"), ("mega", "Ω"), ("micron", "Ο"), ("opf", "𝕆"),
  ("penCurlyDoubleQuote", "“"), ("penCurlyQuote", "‘"), ("r", "⩔"), ("scr", "𝒪"), ("slash", "Ø"),
  ("tilde", "Õ"), ("times", "⨷"), ("uml", "Ö"), ("verBar", "‾"), ("verBrace", "⏞"),
  ("verBracket", "⎴"), ("verParenthesis", "⏜")]

/-- The names that begin with a capital P. -/
def capitalP : List (String × String) := [
  ("artialD", "∂"), ("cy", "П"), ("fr", "𝔓"), ("hi", "Φ"), ("i", "Π"), ("lusMinus", "±"),
  ("oincareplane", "ℌ"), ("opf", "ℙ"), ("r", "⪻"), ("recedes", "≺"), ("recedesEqual", "⪯"),
  ("recedesSlantEqual", "≼"), ("recedesTilde", "≾"), ("rime", "″"), ("roduct", "∏"),
  ("roportion", "∷"), ("roportional", "∝"), ("scr", "𝒫"), ("si", "Ψ")]

/-- The names that begin with a capital Q. -/
def capitalQ : List (String × String) := [
  ("UOT", "\x22"), ("fr", "𝔔"), ("opf", "ℚ"), ("scr", "𝒬")]

/-- The names that begin with a capital R. -/
def capitalR : List (String × String) := [
  ("Barr", "⤐"), ("EG", "®"), ("acute", "Ŕ"), ("ang", "⟫"), ("arr", "↠"), ("arrtl", "⤖"),
  ("caron", "Ř"), ("cedil", "Ŗ"), ("cy", "Р"), ("e", "ℜ"), ("everseElement", "∋"),
  ("everseEquilibrium", "⇋"), ("everseUpEquilibrium", "⥯"), ("fr", "ℜ"), ("ho", "Ρ"),
  ("ightAngleBracket", "⟩"), ("ightArrow", "→"), ("ightArrowBar", "⇥"),
  ("ightArrowLeftArrow", "⇄"), ("ightCeiling", "⌉"), ("ightDoubleBracket", "⟧"),
  ("ightDownTeeVector", "⥝"), ("ightDownVector", "⇂"), ("ightDownVectorBar", "⥕"),
  ("ightFloor", "⌋"), ("ightTee", "⊢"), ("ightTeeArrow", "↦"), ("ightTeeVector", "⥛"),
  ("ightTriangle", "⊳"), ("ightTriangleBar", "⧐"), ("ightTriangleEqual", "⊵"),
  ("ightUpDownVector", "⥏"), ("ightUpTeeVector", "⥜"), ("ightUpVector", "↾"),
  ("ightUpVectorBar", "⥔"), ("ightVector", "⇀"), ("ightVectorBar", "⥓"), ("ightarrow", "⇒"),
  ("opf", "ℝ"), ("oundImplies", "⥰"), ("rightarrow", "⇛"), ("scr", "ℛ"), ("sh", "↱"),
  ("uleDelayed", "⧴")]

/-- The names that begin with a capital S. -/
def capitalS : List (String × String) := [
  ("HCHcy", "Щ"), ("Hcy", "Ш"), ("OFTcy", "Ь"), ("acute", "Ś"), ("c", "⪼"), ("caron", "Š"),
  ("cedil", "Ş"), ("circ", "Ŝ"), ("cy", "С"), ("fr", "𝔖"), ("hortDownArrow", "↓"),
  ("hortLeftArrow", "←"), ("hortRightArrow", "→"), ("hortUpArrow", "↑"), ("igma", "Σ"),
  ("mallCircle", "∘"), ("opf", "𝕊"), ("qrt", "√"), ("quare", "□"), ("quareIntersection", "⊓"),
  ("quareSubset", "⊏"), ("quareSubsetEqual", "⊑"), ("quareSuperset", "⊐"),
  ("quareSupersetEqual", "⊒"), ("quareUnion", "⊔"), ("scr", "𝒮"), ("tar", "⋆"), ("ub", "⋐"),
  ("ubset", "⋐"), ("ubsetEqual", "⊆"), ("ucceeds", "≻"), ("ucceedsEqual", "⪰"),
  ("ucceedsSlantEqual", "≽"), ("ucceedsTilde", "≿"), ("uchThat", "∋"), ("um", "∑"), ("up", "⋑"),
  ("uperset", "⊃"), ("upersetEqual", "⊇"), ("upset", "⋑")]

/-- The names that begin with a capital T. -/
def capitalT : List (String × String) := [
  ("HORN", "Þ"), ("RADE", "™"), ("SHcy", "Ћ"), ("Scy", "Ц"), ("ab", "\x09"), ("au", "Τ"),
  ("caron", "Ť"), ("cedil", "Ţ"), ("cy", "Т"), ("fr", "𝔗"), ("herefore", "∴"), ("heta", "Θ"),
  ("hickSpace", "\u205f\u200a"), ("hinSpace", "\u2009"), ("ilde", "∼"), ("ildeEqual", "≃"),
  ("ildeFullEqual", "≅"), ("ildeTilde", "≈"), ("opf", "𝕋"), ("ripleDot", "\u20db"), ("scr", "𝒯"),
  ("strok", "Ŧ")]

/-- The names that begin with a capital U. -/
def capitalU : List (String × String) := [
  ("acute", "Ú"), ("arr", "↟"), ("arrocir", "⥉"), ("brcy", "Ў"), ("breve", "Ŭ"), ("circ", "Û"),
  ("cy", "У"), ("dblac", "Ű"), ("fr", "𝔘"), ("grave", "Ù"), ("macr", "Ū"), ("nderBar", "_"),
  ("nderBrace", "⏟"), ("nderBracket", "⎵"), ("nderParenthesis", "⏝"), ("nion", "⋃"),
  ("nionPlus", "⊎"), ("ogon", "Ų"), ("opf", "𝕌"), ("pArrow", "↑"), ("pArrowBar", "⤒"),
  ("pArrowDownArrow", "⇅"), ("pDownArrow", "↕"), ("pEquilibrium", "⥮"), ("pTee", "⊥"),
  ("pTeeArrow", "↥"), ("parrow", "⇑"), ("pdownarrow", "⇕"), ("pperLeftArrow", "↖"),
  ("pperRightArrow", "↗"), ("psi", "ϒ"), ("psilon", "Υ"), ("ring", "Ů"), ("scr", "𝒰"),
  ("tilde", "Ũ"), ("uml", "Ü")]

/-- The names that begin with a capital V. -/
def capitalV : List (String × String) := [
  ("Dash", "⊫"), ("bar", "⫫"), ("cy", "В"), ("dash", "⊩"), ("dashl", "⫦"), ("ee", "⋁"),
  ("erbar", "‖"), ("ert", "‖"), ("erticalBar", "∣"), ("erticalLine", "|"),
  ("erticalSeparator", "❘"), ("erticalTilde", "≀"), ("eryThinSpace", "\u200a"), ("fr", "𝔙"),
  ("opf", "𝕍"), ("scr", "𝒱"), ("vdash", "⊪")]

/-- The names that begin with a capital W. -/
def capitalW : List (String × String) := [
  ("circ", "Ŵ"), ("edge", "⋀"), ("fr", "𝔚"), ("opf", "𝕎"), ("scr", "𝒲")]

/-- The names that begin with a capital X. -/
def capitalX : List (String × String) := [
  ("fr", "𝔛"), ("i", "Ξ"), ("opf", "𝕏"), ("scr", "𝒳")]

/-- The names that begin with a capital Y. -/
def capitalY : List (String × String) := [
  ("Acy", "Я"), ("Icy", "Ї"), ("Ucy", "Ю"), ("acute", "Ý"), ("circ", "Ŷ"), ("cy", "Ы"),
  ("fr", "𝔜"), ("opf", "𝕐"), ("scr", "𝒴"), ("uml", "Ÿ")]

/-- The names that begin with a capital Z. -/
def capitalZ : List (String × String) := [
  ("Hcy", "Ж"), ("acute", "Ź"), ("caron", "Ž"), ("cy", "З"), ("dot", "Ż"),
  ("eroWidthSpace", "\u200b"), ("eta", "Ζ"), ("fr", "ℨ"), ("opf", "ℤ"), ("scr", "𝒵")]

end TutorialPages.Markdown.NamedReference
