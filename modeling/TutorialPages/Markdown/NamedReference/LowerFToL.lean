/-!
# Named character references, small f to l

The names that HTML gives to characters, each with the text it stands for. The names of a list all
begin with one letter, which is left out.
-/

namespace TutorialPages.Markdown.NamedReference

/-- The names that begin with a small f. -/
def smallF : List (String × String) := [
  ("allingdotseq", "≒"), ("cy", "ф"), ("emale", "♀"), ("filig", "ﬃ"), ("flig", "ﬀ"),
  ("fllig", "ﬄ"), ("fr", "𝔣"), ("ilig", "ﬁ"), ("jlig", "fj"), ("lat", "♭"), ("llig", "ﬂ"),
  ("ltns", "▱"), ("nof", "ƒ"), ("opf", "𝕗"), ("orall", "∀"), ("ork", "⋔"), ("orkv", "⫙"),
  ("partint", "⨍"), ("rac12", "½"), ("rac13", "⅓"), ("rac14", "¼"), ("rac15", "⅕"),
  ("rac16", "⅙"), ("rac18", "⅛"), ("rac23", "⅔"), ("rac25", "⅖"), ("rac34", "¾"), ("rac35", "⅗"),
  ("rac38", "⅜"), ("rac45", "⅘"), ("rac56", "⅚"), ("rac58", "⅝"), ("rac78", "⅞"), ("rasl", "⁄"),
  ("rown", "⌢"), ("scr", "𝒻")]

/-- The names that begin with a small g. -/
def smallG : List (String × String) := [
  ("E", "≧"), ("El", "⪌"), ("acute", "ǵ"), ("amma", "γ"), ("ammad", "ϝ"), ("ap", "⪆"),
  ("breve", "ğ"), ("circ", "ĝ"), ("cy", "г"), ("dot", "ġ"), ("e", "≥"), ("el", "⋛"), ("eq", "≥"),
  ("eqq", "≧"), ("eqslant", "⩾"), ("es", "⩾"), ("escc", "⪩"), ("esdot", "⪀"), ("esdoto", "⪂"),
  ("esdotol", "⪄"), ("esl", "⋛\ufe00"), ("esles", "⪔"), ("fr", "𝔤"), ("g", "≫"), ("gg", "⋙"),
  ("imel", "ℷ"), ("jcy", "ѓ"), ("l", "≷"), ("lE", "⪒"), ("la", "⪥"), ("lj", "⪤"), ("nE", "≩"),
  ("nap", "⪊"), ("napprox", "⪊"), ("ne", "⪈"), ("neq", "⪈"), ("neqq", "≩"), ("nsim", "⋧"),
  ("opf", "𝕘"), ("rave", "`"), ("scr", "ℊ"), ("sim", "≳"), ("sime", "⪎"), ("siml", "⪐"),
  ("t", ">"), ("tcc", "⪧"), ("tcir", "⩺"), ("tdot", "⋗"), ("tlPar", "⦕"), ("tquest", "⩼"),
  ("trapprox", "⪆"), ("trarr", "⥸"), ("trdot", "⋗"), ("treqless", "⋛"), ("treqqless", "⪌"),
  ("trless", "≷"), ("trsim", "≳"), ("vertneqq", "≩\ufe00"), ("vnE", "≩\ufe00")]

/-- The names that begin with a small h. -/
def smallH : List (String × String) := [
  ("Arr", "⇔"), ("airsp", "\u200a"), ("alf", "½"), ("amilt", "ℋ"), ("ardcy", "ъ"), ("arr", "↔"),
  ("arrcir", "⥈"), ("arrw", "↭"), ("bar", "ℏ"), ("circ", "ĥ"), ("earts", "♥"), ("eartsuit", "♥"),
  ("ellip", "…"), ("ercon", "⊹"), ("fr", "𝔥"), ("ksearow", "⤥"), ("kswarow", "⤦"), ("oarr", "⇿"),
  ("omtht", "∻"), ("ookleftarrow", "↩"), ("ookrightarrow", "↪"), ("opf", "𝕙"), ("orbar", "―"),
  ("scr", "𝒽"), ("slash", "ℏ"), ("strok", "ħ"), ("ybull", "⁃"), ("yphen", "‐")]

/-- The names that begin with a small i. -/
def smallI : List (String × String) := [
  ("acute", "í"), ("c", "\u2063"), ("circ", "î"), ("cy", "и"), ("ecy", "е"), ("excl", "¡"),
  ("ff", "⇔"), ("fr", "𝔦"), ("grave", "ì"), ("i", "ⅈ"), ("iiint", "⨌"), ("iint", "∭"),
  ("infin", "⧜"), ("iota", "℩"), ("jlig", "ĳ"), ("macr", "ī"), ("mage", "ℑ"), ("magline", "ℐ"),
  ("magpart", "ℑ"), ("math", "ı"), ("mof", "⊷"), ("mped", "Ƶ"), ("n", "∈"), ("ncare", "℅"),
  ("nfin", "∞"), ("nfintie", "⧝"), ("nodot", "ı"), ("nt", "∫"), ("ntcal", "⊺"), ("ntegers", "ℤ"),
  ("ntercal", "⊺"), ("ntlarhk", "⨗"), ("ntprod", "⨼"), ("ocy", "ё"), ("ogon", "į"), ("opf", "𝕚"),
  ("ota", "ι"), ("prod", "⨼"), ("quest", "¿"), ("scr", "𝒾"), ("sin", "∈"), ("sinE", "⋹"),
  ("sindot", "⋵"), ("sins", "⋴"), ("sinsv", "⋳"), ("sinv", "∈"), ("t", "\u2062"), ("tilde", "ĩ"),
  ("ukcy", "і"), ("uml", "ï")]

/-- The names that begin with a small j. -/
def smallJ : List (String × String) := [
  ("circ", "ĵ"), ("cy", "й"), ("fr", "𝔧"), ("math", "ȷ"), ("opf", "𝕛"), ("scr", "𝒿"),
  ("sercy", "ј"), ("ukcy", "є")]

/-- The names that begin with a small k. -/
def smallK : List (String × String) := [
  ("appa", "κ"), ("appav", "ϰ"), ("cedil", "ķ"), ("cy", "к"), ("fr", "𝔨"), ("green", "ĸ"),
  ("hcy", "х"), ("jcy", "ќ"), ("opf", "𝕜"), ("scr", "𝓀")]

/-- The names that begin with a small l. -/
def smallL : List (String × String) := [
  ("Aarr", "⇚"), ("Arr", "⇐"), ("Atail", "⤛"), ("Barr", "⤎"), ("E", "≦"), ("Eg", "⪋"),
  ("Har", "⥢"), ("acute", "ĺ"), ("aemptyv", "⦴"), ("agran", "ℒ"), ("ambda", "λ"), ("ang", "⟨"),
  ("angd", "⦑"), ("angle", "⟨"), ("ap", "⪅"), ("aquo", "«"), ("arr", "←"), ("arrb", "⇤"),
  ("arrbfs", "⤟"), ("arrfs", "⤝"), ("arrhk", "↩"), ("arrlp", "↫"), ("arrpl", "⤹"),
  ("arrsim", "⥳"), ("arrtl", "↢"), ("at", "⪫"), ("atail", "⤙"), ("ate", "⪭"),
  ("ates", "⪭\ufe00"), ("barr", "⤌"), ("bbrk", "❲"), ("brace", "\x7b"), ("brack", "["),
  ("brke", "⦋"), ("brksld", "⦏"), ("brkslu", "⦍"), ("caron", "ľ"), ("cedil", "ļ"), ("ceil", "⌈"),
  ("cub", "\x7b"), ("cy", "л"), ("dca", "⤶"), ("dquo", "“"), ("dquor", "„"), ("drdhar", "⥧"),
  ("drushar", "⥋"), ("dsh", "↲"), ("e", "≤"), ("eftarrow", "←"), ("eftarrowtail", "↢"),
  ("eftharpoondown", "↽"), ("eftharpoonup", "↼"), ("eftleftarrows", "⇇"), ("eftrightarrow", "↔"),
  ("eftrightarrows", "⇆"), ("eftrightharpoons", "⇋"), ("eftrightsquigarrow", "↭"),
  ("eftthreetimes", "⋋"), ("eg", "⋚"), ("eq", "≤"), ("eqq", "≦"), ("eqslant", "⩽"), ("es", "⩽"),
  ("escc", "⪨"), ("esdot", "⩿"), ("esdoto", "⪁"), ("esdotor", "⪃"), ("esg", "⋚\ufe00"),
  ("esges", "⪓"), ("essapprox", "⪅"), ("essdot", "⋖"), ("esseqgtr", "⋚"), ("esseqqgtr", "⪋"),
  ("essgtr", "≶"), ("esssim", "≲"), ("fisht", "⥼"), ("floor", "⌊"), ("fr", "𝔩"), ("g", "≶"),
  ("gE", "⪑"), ("hard", "↽"), ("haru", "↼"), ("harul", "⥪"), ("hblk", "▄"), ("jcy", "љ"),
  ("l", "≪"), ("larr", "⇇"), ("lcorner", "⌞"), ("lhard", "⥫"), ("ltri", "◺"), ("midot", "ŀ"),
  ("moust", "⎰"), ("moustache", "⎰"), ("nE", "≨"), ("nap", "⪉"), ("napprox", "⪉"), ("ne", "⪇"),
  ("neq", "⪇"), ("neqq", "≨"), ("nsim", "⋦"), ("oang", "⟬"), ("oarr", "⇽"), ("obrk", "⟦"),
  ("ongleftarrow", "⟵"), ("ongleftrightarrow", "⟷"), ("ongmapsto", "⟼"), ("ongrightarrow", "⟶"),
  ("ooparrowleft", "↫"), ("ooparrowright", "↬"), ("opar", "⦅"), ("opf", "𝕝"), ("oplus", "⨭"),
  ("otimes", "⨴"), ("owast", "∗"), ("owbar", "_"), ("oz", "◊"), ("ozenge", "◊"), ("ozf", "⧫"),
  ("par", "("), ("parlt", "⦓"), ("rarr", "⇆"), ("rcorner", "⌟"), ("rhar", "⇋"), ("rhard", "⥭"),
  ("rm", "\u200e"), ("rtri", "⊿"), ("saquo", "‹"), ("scr", "𝓁"), ("sh", "↰"), ("sim", "≲"),
  ("sime", "⪍"), ("simg", "⪏"), ("sqb", "["), ("squo", "‘"), ("squor", "‚"), ("strok", "ł"),
  ("t", "<"), ("tcc", "⪦"), ("tcir", "⩹"), ("tdot", "⋖"), ("three", "⋋"), ("times", "⋉"),
  ("tlarr", "⥶"), ("tquest", "⩻"), ("trPar", "⦖"), ("tri", "◃"), ("trie", "⊴"), ("trif", "◂"),
  ("urdshar", "⥊"), ("uruhar", "⥦"), ("vertneqq", "≨\ufe00"), ("vnE", "≨\ufe00")]

end TutorialPages.Markdown.NamedReference
