/-!
# Named character references, small m to r

The names that HTML gives to characters, each with the text it stands for. The names of a list all
begin with one letter, which is left out.
-/

namespace TutorialPages.Markdown.NamedReference

/-- The names that begin with a small m. -/
def smallM : List (String × String) := [
  ("DDot", "∺"), ("acr", "¯"), ("ale", "♂"), ("alt", "✠"), ("altese", "✠"), ("ap", "↦"),
  ("apsto", "↦"), ("apstodown", "↧"), ("apstoleft", "↤"), ("apstoup", "↥"), ("arker", "▮"),
  ("comma", "⨩"), ("cy", "м"), ("dash", "—"), ("easuredangle", "∡"), ("fr", "𝔪"), ("ho", "℧"),
  ("icro", "µ"), ("id", "∣"), ("idast", "*"), ("idcir", "⫰"), ("iddot", "·"), ("inus", "−"),
  ("inusb", "⊟"), ("inusd", "∸"), ("inusdu", "⨪"), ("lcp", "⫛"), ("ldr", "…"), ("nplus", "∓"),
  ("odels", "⊧"), ("opf", "𝕞"), ("p", "∓"), ("scr", "𝓂"), ("stpos", "∾"), ("u", "μ"),
  ("ultimap", "⊸"), ("umap", "⊸")]

/-- The names that begin with a small n. -/
def smallN : List (String × String) := [
  ("Gg", "⋙\u0338"), ("Gt", "≫\u20d2"), ("Gtv", "≫\u0338"), ("Leftarrow", "⇍"),
  ("Leftrightarrow", "⇎"), ("Ll", "⋘\u0338"), ("Lt", "≪\u20d2"), ("Ltv", "≪\u0338"),
  ("Rightarrow", "⇏"), ("VDash", "⊯"), ("Vdash", "⊮"), ("abla", "∇"), ("acute", "ń"),
  ("ang", "∠\u20d2"), ("ap", "≉"), ("apE", "⩰\u0338"), ("apid", "≋\u0338"), ("apos", "ŉ"),
  ("approx", "≉"), ("atur", "♮"), ("atural", "♮"), ("aturals", "ℕ"), ("bsp", "\u00a0"),
  ("bump", "≎\u0338"), ("bumpe", "≏\u0338"), ("cap", "⩃"), ("caron", "ň"), ("cedil", "ņ"),
  ("cong", "≇"), ("congdot", "⩭\u0338"), ("cup", "⩂"), ("cy", "н"), ("dash", "–"), ("e", "≠"),
  ("eArr", "⇗"), ("earhk", "⤤"), ("earr", "↗"), ("earrow", "↗"), ("edot", "≐\u0338"),
  ("equiv", "≢"), ("esear", "⤨"), ("esim", "≂\u0338"), ("exist", "∄"), ("exists", "∄"),
  ("fr", "𝔫"), ("gE", "≧\u0338"), ("ge", "≱"), ("geq", "≱"), ("geqq", "≧\u0338"),
  ("geqslant", "⩾\u0338"), ("ges", "⩾\u0338"), ("gsim", "≵"), ("gt", "≯"), ("gtr", "≯"),
  ("hArr", "⇎"), ("harr", "↮"), ("hpar", "⫲"), ("i", "∋"), ("is", "⋼"), ("isd", "⋺"),
  ("iv", "∋"), ("jcy", "њ"), ("lArr", "⇍"), ("lE", "≦\u0338"), ("larr", "↚"), ("ldr", "‥"),
  ("le", "≰"), ("leftarrow", "↚"), ("leftrightarrow", "↮"), ("leq", "≰"), ("leqq", "≦\u0338"),
  ("leqslant", "⩽\u0338"), ("les", "⩽\u0338"), ("less", "≮"), ("lsim", "≴"), ("lt", "≮"),
  ("ltri", "⋪"), ("ltrie", "⋬"), ("mid", "∤"), ("opf", "𝕟"), ("ot", "¬"), ("otin", "∉"),
  ("otinE", "⋹\u0338"), ("otindot", "⋵\u0338"), ("otinva", "∉"), ("otinvb", "⋷"),
  ("otinvc", "⋶"), ("otni", "∌"), ("otniva", "∌"), ("otnivb", "⋾"), ("otnivc", "⋽"),
  ("par", "∦"), ("parallel", "∦"), ("parsl", "⫽\u20e5"), ("part", "∂\u0338"), ("polint", "⨔"),
  ("pr", "⊀"), ("prcue", "⋠"), ("pre", "⪯\u0338"), ("prec", "⊀"), ("preceq", "⪯\u0338"),
  ("rArr", "⇏"), ("rarr", "↛"), ("rarrc", "⤳\u0338"), ("rarrw", "↝\u0338"), ("rightarrow", "↛"),
  ("rtri", "⋫"), ("rtrie", "⋭"), ("sc", "⊁"), ("sccue", "⋡"), ("sce", "⪰\u0338"), ("scr", "𝓃"),
  ("shortmid", "∤"), ("shortparallel", "∦"), ("sim", "≁"), ("sime", "≄"), ("simeq", "≄"),
  ("smid", "∤"), ("spar", "∦"), ("sqsube", "⋢"), ("sqsupe", "⋣"), ("sub", "⊄"),
  ("subE", "⫅\u0338"), ("sube", "⊈"), ("subset", "⊂\u20d2"), ("subseteq", "⊈"),
  ("subseteqq", "⫅\u0338"), ("succ", "⊁"), ("succeq", "⪰\u0338"), ("sup", "⊅"),
  ("supE", "⫆\u0338"), ("supe", "⊉"), ("supset", "⊃\u20d2"), ("supseteq", "⊉"),
  ("supseteqq", "⫆\u0338"), ("tgl", "≹"), ("tilde", "ñ"), ("tlg", "≸"), ("triangleleft", "⋪"),
  ("trianglelefteq", "⋬"), ("triangleright", "⋫"), ("trianglerighteq", "⋭"), ("u", "ν"),
  ("um", "#"), ("umero", "№"), ("umsp", "\u2007"), ("vDash", "⊭"), ("vHarr", "⤄"),
  ("vap", "≍\u20d2"), ("vdash", "⊬"), ("vge", "≥\u20d2"), ("vgt", ">\u20d2"), ("vinfin", "⧞"),
  ("vlArr", "⤂"), ("vle", "≤\u20d2"), ("vlt", "<\u20d2"), ("vltrie", "⊴\u20d2"), ("vrArr", "⤃"),
  ("vrtrie", "⊵\u20d2"), ("vsim", "∼\u20d2"), ("wArr", "⇖"), ("warhk", "⤣"), ("warr", "↖"),
  ("warrow", "↖"), ("wnear", "⤧")]

/-- The names that begin with a small o. -/
def smallO : List (String × String) := [
  ("S", "Ⓢ"), ("acute", "ó"), ("ast", "⊛"), ("cir", "⊚"), ("circ", "ô"), ("cy", "о"),
  ("dash", "⊝"), ("dblac", "ő"), ("div", "⨸"), ("dot", "⊙"), ("dsold", "⦼"), ("elig", "œ"),
  ("fcir", "⦿"), ("fr", "𝔬"), ("gon", "˛"), ("grave", "ò"), ("gt", "⧁"), ("hbar", "⦵"),
  ("hm", "Ω"), ("int", "∮"), ("larr", "↺"), ("lcir", "⦾"), ("lcross", "⦻"), ("line", "‾"),
  ("lt", "⧀"), ("macr", "ō"), ("mega", "ω"), ("micron", "ο"), ("mid", "⦶"), ("minus", "⊖"),
  ("opf", "𝕠"), ("par", "⦷"), ("perp", "⦹"), ("plus", "⊕"), ("r", "∨"), ("rarr", "↻"),
  ("rd", "⩝"), ("rder", "ℴ"), ("rderof", "ℴ"), ("rdf", "ª"), ("rdm", "º"), ("rigof", "⊶"),
  ("ror", "⩖"), ("rslope", "⩗"), ("rv", "⩛"), ("scr", "ℴ"), ("slash", "ø"), ("sol", "⊘"),
  ("tilde", "õ"), ("times", "⊗"), ("timesas", "⨶"), ("uml", "ö"), ("vbar", "⌽")]

/-- The names that begin with a small p. -/
def smallP : List (String × String) := [
  ("ar", "∥"), ("ara", "¶"), ("arallel", "∥"), ("arsim", "⫳"), ("arsl", "⫽"), ("art", "∂"),
  ("cy", "п"), ("ercnt", "%"), ("eriod", "."), ("ermil", "‰"), ("erp", "⊥"), ("ertenk", "‱"),
  ("fr", "𝔭"), ("hi", "φ"), ("hiv", "ϕ"), ("hmmat", "ℳ"), ("hone", "☎"), ("i", "π"),
  ("itchfork", "⋔"), ("iv", "ϖ"), ("lanck", "ℏ"), ("lanckh", "ℎ"), ("lankv", "ℏ"), ("lus", "+"),
  ("lusacir", "⨣"), ("lusb", "⊞"), ("luscir", "⨢"), ("lusdo", "∔"), ("lusdu", "⨥"),
  ("luse", "⩲"), ("lusmn", "±"), ("lussim", "⨦"), ("lustwo", "⨧"), ("m", "±"), ("ointint", "⨕"),
  ("opf", "𝕡"), ("ound", "£"), ("r", "≺"), ("rE", "⪳"), ("rap", "⪷"), ("rcue", "≼"), ("re", "⪯"),
  ("rec", "≺"), ("recapprox", "⪷"), ("reccurlyeq", "≼"), ("receq", "⪯"), ("recnapprox", "⪹"),
  ("recneqq", "⪵"), ("recnsim", "⋨"), ("recsim", "≾"), ("rime", "′"), ("rimes", "ℙ"),
  ("rnE", "⪵"), ("rnap", "⪹"), ("rnsim", "⋨"), ("rod", "∏"), ("rofalar", "⌮"), ("rofline", "⌒"),
  ("rofsurf", "⌓"), ("rop", "∝"), ("ropto", "∝"), ("rsim", "≾"), ("rurel", "⊰"), ("scr", "𝓅"),
  ("si", "ψ"), ("uncsp", "\u2008")]

/-- The names that begin with a small q. -/
def smallQ : List (String × String) := [
  ("fr", "𝔮"), ("int", "⨌"), ("opf", "𝕢"), ("prime", "⁗"), ("scr", "𝓆"), ("uaternions", "ℍ"),
  ("uatint", "⨖"), ("uest", "?"), ("uesteq", "≟"), ("uot", "\x22")]

/-- The names that begin with a small r. -/
def smallR : List (String × String) := [
  ("Aarr", "⇛"), ("Arr", "⇒"), ("Atail", "⤜"), ("Barr", "⤏"), ("Har", "⥤"), ("ace", "∽\u0331"),
  ("acute", "ŕ"), ("adic", "√"), ("aemptyv", "⦳"), ("ang", "⟩"), ("angd", "⦒"), ("ange", "⦥"),
  ("angle", "⟩"), ("aquo", "»"), ("arr", "→"), ("arrap", "⥵"), ("arrb", "⇥"), ("arrbfs", "⤠"),
  ("arrc", "⤳"), ("arrfs", "⤞"), ("arrhk", "↪"), ("arrlp", "↬"), ("arrpl", "⥅"), ("arrsim", "⥴"),
  ("arrtl", "↣"), ("arrw", "↝"), ("atail", "⤚"), ("atio", "∶"), ("ationals", "ℚ"), ("barr", "⤍"),
  ("bbrk", "❳"), ("brace", "\x7d"), ("brack", "]"), ("brke", "⦌"), ("brksld", "⦎"),
  ("brkslu", "⦐"), ("caron", "ř"), ("cedil", "ŗ"), ("ceil", "⌉"), ("cub", "\x7d"), ("cy", "р"),
  ("dca", "⤷"), ("dldhar", "⥩"), ("dquo", "”"), ("dquor", "”"), ("dsh", "↳"), ("eal", "ℜ"),
  ("ealine", "ℛ"), ("ealpart", "ℜ"), ("eals", "ℝ"), ("ect", "▭"), ("eg", "®"), ("fisht", "⥽"),
  ("floor", "⌋"), ("fr", "𝔯"), ("hard", "⇁"), ("haru", "⇀"), ("harul", "⥬"), ("ho", "ρ"),
  ("hov", "ϱ"), ("ightarrow", "→"), ("ightarrowtail", "↣"), ("ightharpoondown", "⇁"),
  ("ightharpoonup", "⇀"), ("ightleftarrows", "⇄"), ("ightleftharpoons", "⇌"),
  ("ightrightarrows", "⇉"), ("ightsquigarrow", "↝"), ("ightthreetimes", "⋌"), ("ing", "˚"),
  ("isingdotseq", "≓"), ("larr", "⇄"), ("lhar", "⇌"), ("lm", "\u200f"), ("moust", "⎱"),
  ("moustache", "⎱"), ("nmid", "⫮"), ("oang", "⟭"), ("oarr", "⇾"), ("obrk", "⟧"), ("opar", "⦆"),
  ("opf", "𝕣"), ("oplus", "⨮"), ("otimes", "⨵"), ("par", ")"), ("pargt", "⦔"), ("ppolint", "⨒"),
  ("rarr", "⇉"), ("saquo", "›"), ("scr", "𝓇"), ("sh", "↱"), ("sqb", "]"), ("squo", "’"),
  ("squor", "’"), ("three", "⋌"), ("times", "⋊"), ("tri", "▹"), ("trie", "⊵"), ("trif", "▸"),
  ("triltri", "⧎"), ("uluhar", "⥨"), ("x", "℞")]

end TutorialPages.Markdown.NamedReference
