/-!
# Named character references, small a to e

The names that HTML gives to characters, each with the text it stands for. The names of a list all
begin with one letter, which is left out.
-/

namespace TutorialPages.Markdown.NamedReference

/-- The names that begin with a small a. -/
def smallA : List (String × String) := [
  ("acute", "á"), ("breve", "ă"), ("c", "∾"), ("cE", "∾\u0333"), ("cd", "∿"), ("circ", "â"),
  ("cute", "´"), ("cy", "а"), ("elig", "æ"), ("f", "\u2061"), ("fr", "𝔞"), ("grave", "à"),
  ("lefsym", "ℵ"), ("leph", "ℵ"), ("lpha", "α"), ("macr", "ā"), ("malg", "⨿"), ("mp", "&"),
  ("nd", "∧"), ("ndand", "⩕"), ("ndd", "⩜"), ("ndslope", "⩘"), ("ndv", "⩚"), ("ng", "∠"),
  ("nge", "⦤"), ("ngle", "∠"), ("ngmsd", "∡"), ("ngmsdaa", "⦨"), ("ngmsdab", "⦩"),
  ("ngmsdac", "⦪"), ("ngmsdad", "⦫"), ("ngmsdae", "⦬"), ("ngmsdaf", "⦭"), ("ngmsdag", "⦮"),
  ("ngmsdah", "⦯"), ("ngrt", "∟"), ("ngrtvb", "⊾"), ("ngrtvbd", "⦝"), ("ngsph", "∢"),
  ("ngst", "Å"), ("ngzarr", "⍼"), ("ogon", "ą"), ("opf", "𝕒"), ("p", "≈"), ("pE", "⩰"),
  ("pacir", "⩯"), ("pe", "≊"), ("pid", "≋"), ("pos", "'"), ("pprox", "≈"), ("pproxeq", "≊"),
  ("ring", "å"), ("scr", "𝒶"), ("st", "*"), ("symp", "≈"), ("sympeq", "≍"), ("tilde", "ã"),
  ("uml", "ä"), ("wconint", "∳"), ("wint", "⨑")]

/-- The names that begin with a small b. -/
def smallB : List (String × String) := [
  ("Not", "⫭"), ("ackcong", "≌"), ("ackepsilon", "϶"), ("ackprime", "‵"), ("acksim", "∽"),
  ("acksimeq", "⋍"), ("arvee", "⊽"), ("arwed", "⌅"), ("arwedge", "⌅"), ("brk", "⎵"),
  ("brktbrk", "⎶"), ("cong", "≌"), ("cy", "б"), ("dquo", "„"), ("ecaus", "∵"), ("ecause", "∵"),
  ("emptyv", "⦰"), ("epsi", "϶"), ("ernou", "ℬ"), ("eta", "β"), ("eth", "ℶ"), ("etween", "≬"),
  ("fr", "𝔟"), ("igcap", "⋂"), ("igcirc", "◯"), ("igcup", "⋃"), ("igodot", "⨀"),
  ("igoplus", "⨁"), ("igotimes", "⨂"), ("igsqcup", "⨆"), ("igstar", "★"),
  ("igtriangledown", "▽"), ("igtriangleup", "△"), ("iguplus", "⨄"), ("igvee", "⋁"),
  ("igwedge", "⋀"), ("karow", "⤍"), ("lacklozenge", "⧫"), ("lacksquare", "▪"),
  ("lacktriangle", "▴"), ("lacktriangledown", "▾"), ("lacktriangleleft", "◂"),
  ("lacktriangleright", "▸"), ("lank", "␣"), ("lk12", "▒"), ("lk14", "░"), ("lk34", "▓"),
  ("lock", "█"), ("ne", "=\u20e5"), ("nequiv", "≡\u20e5"), ("not", "⌐"), ("opf", "𝕓"),
  ("ot", "⊥"), ("ottom", "⊥"), ("owtie", "⋈"), ("oxDL", "╗"), ("oxDR", "╔"), ("oxDl", "╖"),
  ("oxDr", "╓"), ("oxH", "═"), ("oxHD", "╦"), ("oxHU", "╩"), ("oxHd", "╤"), ("oxHu", "╧"),
  ("oxUL", "╝"), ("oxUR", "╚"), ("oxUl", "╜"), ("oxUr", "╙"), ("oxV", "║"), ("oxVH", "╬"),
  ("oxVL", "╣"), ("oxVR", "╠"), ("oxVh", "╫"), ("oxVl", "╢"), ("oxVr", "╟"), ("oxbox", "⧉"),
  ("oxdL", "╕"), ("oxdR", "╒"), ("oxdl", "┐"), ("oxdr", "┌"), ("oxh", "─"), ("oxhD", "╥"),
  ("oxhU", "╨"), ("oxhd", "┬"), ("oxhu", "┴"), ("oxminus", "⊟"), ("oxplus", "⊞"),
  ("oxtimes", "⊠"), ("oxuL", "╛"), ("oxuR", "╘"), ("oxul", "┘"), ("oxur", "└"), ("oxv", "│"),
  ("oxvH", "╪"), ("oxvL", "╡"), ("oxvR", "╞"), ("oxvh", "┼"), ("oxvl", "┤"), ("oxvr", "├"),
  ("prime", "‵"), ("reve", "˘"), ("rvbar", "¦"), ("scr", "𝒷"), ("semi", "⁏"), ("sim", "∽"),
  ("sime", "⋍"), ("sol", "\x5c"), ("solb", "⧅"), ("solhsub", "⟈"), ("ull", "•"), ("ullet", "•"),
  ("ump", "≎"), ("umpE", "⪮"), ("umpe", "≏"), ("umpeq", "≏")]

/-- The names that begin with a small c. -/
def smallC : List (String × String) := [
  ("acute", "ć"), ("ap", "∩"), ("apand", "⩄"), ("apbrcup", "⩉"), ("apcap", "⩋"), ("apcup", "⩇"),
  ("apdot", "⩀"), ("aps", "∩\ufe00"), ("aret", "⁁"), ("aron", "ˇ"), ("caps", "⩍"),
  ("caron", "č"), ("cedil", "ç"), ("circ", "ĉ"), ("cups", "⩌"), ("cupssm", "⩐"), ("dot", "ċ"),
  ("edil", "¸"), ("emptyv", "⦲"), ("ent", "¢"), ("enterdot", "·"), ("fr", "𝔠"), ("hcy", "ч"),
  ("heck", "✓"), ("heckmark", "✓"), ("hi", "χ"), ("ir", "○"), ("irE", "⧃"), ("irc", "ˆ"),
  ("irceq", "≗"), ("irclearrowleft", "↺"), ("irclearrowright", "↻"), ("ircledR", "®"),
  ("ircledS", "Ⓢ"), ("ircledast", "⊛"), ("ircledcirc", "⊚"), ("ircleddash", "⊝"), ("ire", "≗"),
  ("irfnint", "⨐"), ("irmid", "⫯"), ("irscir", "⧂"), ("lubs", "♣"), ("lubsuit", "♣"),
  ("olon", ":"), ("olone", "≔"), ("oloneq", "≔"), ("omma", ","), ("ommat", "@"), ("omp", "∁"),
  ("ompfn", "∘"), ("omplement", "∁"), ("omplexes", "ℂ"), ("ong", "≅"), ("ongdot", "⩭"),
  ("onint", "∮"), ("opf", "𝕔"), ("oprod", "∐"), ("opy", "©"), ("opysr", "℗"), ("rarr", "↵"),
  ("ross", "✗"), ("scr", "𝒸"), ("sub", "⫏"), ("sube", "⫑"), ("sup", "⫐"), ("supe", "⫒"),
  ("tdot", "⋯"), ("udarrl", "⤸"), ("udarrr", "⤵"), ("uepr", "⋞"), ("uesc", "⋟"), ("ularr", "↶"),
  ("ularrp", "⤽"), ("up", "∪"), ("upbrcap", "⩈"), ("upcap", "⩆"), ("upcup", "⩊"), ("updot", "⊍"),
  ("upor", "⩅"), ("ups", "∪\ufe00"), ("urarr", "↷"), ("urarrm", "⤼"), ("urlyeqprec", "⋞"),
  ("urlyeqsucc", "⋟"), ("urlyvee", "⋎"), ("urlywedge", "⋏"), ("urren", "¤"),
  ("urvearrowleft", "↶"), ("urvearrowright", "↷"), ("uvee", "⋎"), ("uwed", "⋏"),
  ("wconint", "∲"), ("wint", "∱"), ("ylcty", "⌭")]

/-- The names that begin with a small d. -/
def smallD : List (String × String) := [
  ("Arr", "⇓"), ("Har", "⥥"), ("agger", "†"), ("aleth", "ℸ"), ("arr", "↓"), ("ash", "‐"),
  ("ashv", "⊣"), ("bkarow", "⤏"), ("blac", "˝"), ("caron", "ď"), ("cy", "д"), ("d", "ⅆ"),
  ("dagger", "‡"), ("darr", "⇊"), ("dotseq", "⩷"), ("eg", "°"), ("elta", "δ"), ("emptyv", "⦱"),
  ("fisht", "⥿"), ("fr", "𝔡"), ("harl", "⇃"), ("harr", "⇂"), ("iam", "⋄"), ("iamond", "⋄"),
  ("iamondsuit", "♦"), ("iams", "♦"), ("ie", "¨"), ("igamma", "ϝ"), ("isin", "⋲"), ("iv", "÷"),
  ("ivide", "÷"), ("ivideontimes", "⋇"), ("ivonx", "⋇"), ("jcy", "ђ"), ("lcorn", "⌞"),
  ("lcrop", "⌍"), ("ollar", "$"), ("opf", "𝕕"), ("ot", "˙"), ("oteq", "≐"), ("oteqdot", "≑"),
  ("otminus", "∸"), ("otplus", "∔"), ("otsquare", "⊡"), ("oublebarwedge", "⌆"),
  ("ownarrow", "↓"), ("owndownarrows", "⇊"), ("ownharpoonleft", "⇃"), ("ownharpoonright", "⇂"),
  ("rbkarow", "⤐"), ("rcorn", "⌟"), ("rcrop", "⌌"), ("scr", "𝒹"), ("scy", "ѕ"), ("sol", "⧶"),
  ("strok", "đ"), ("tdot", "⋱"), ("tri", "▿"), ("trif", "▾"), ("uarr", "⇵"), ("uhar", "⥯"),
  ("wangle", "⦦"), ("zcy", "џ"), ("zigrarr", "⟿")]

/-- The names that begin with a small e. -/
def smallE : List (String × String) := [
  ("DDot", "⩷"), ("Dot", "≑"), ("acute", "é"), ("aster", "⩮"), ("caron", "ě"), ("cir", "≖"),
  ("circ", "ê"), ("colon", "≕"), ("cy", "э"), ("dot", "ė"), ("e", "ⅇ"), ("fDot", "≒"),
  ("fr", "𝔢"), ("g", "⪚"), ("grave", "è"), ("gs", "⪖"), ("gsdot", "⪘"), ("l", "⪙"),
  ("linters", "⏧"), ("ll", "ℓ"), ("ls", "⪕"), ("lsdot", "⪗"), ("macr", "ē"), ("mpty", "∅"),
  ("mptyset", "∅"), ("mptyv", "∅"), ("msp", "\u2003"), ("msp13", "\u2004"), ("msp14", "\u2005"),
  ("ng", "ŋ"), ("nsp", "\u2002"), ("ogon", "ę"), ("opf", "𝕖"), ("par", "⋕"), ("parsl", "⧣"),
  ("plus", "⩱"), ("psi", "ε"), ("psilon", "ε"), ("psiv", "ϵ"), ("qcirc", "≖"), ("qcolon", "≕"),
  ("qsim", "≂"), ("qslantgtr", "⪖"), ("qslantless", "⪕"), ("quals", "="), ("quest", "≟"),
  ("quiv", "≡"), ("quivDD", "⩸"), ("qvparsl", "⧥"), ("rDot", "≓"), ("rarr", "⥱"), ("scr", "ℯ"),
  ("sdot", "≐"), ("sim", "≂"), ("ta", "η"), ("th", "ð"), ("uml", "ë"), ("uro", "€"),
  ("xcl", "!"), ("xist", "∃"), ("xpectation", "ℰ"), ("xponentiale", "ⅇ")]

end TutorialPages.Markdown.NamedReference
