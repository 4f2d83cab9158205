/-!
# Named character references, small s to z

The names that HTML gives to characters, each with the text it stands for. The names of a list all
begin with one letter, which is left out.
-/

namespace TutorialPages.Markdown.NamedReference

/-- The names that begin with a small s. -/
def smallS : List (String × String) := [
  ("acute", "ś"), ("bquo", "‚"), ("c", "≻"), ("cE", "⪴"), ("cap", "⪸"), ("caron", "š"),
  ("ccue", "≽"), ("ce", "⪰"), ("cedil", "ş"), ("circ", "ŝ"), ("cnE", "⪶"), ("cnap", "⪺"),
  ("cnsim", "⋩"), ("cpolint", "⨓"), ("csim", "≿"), ("cy", "с"), ("dot", "⋅"), ("dotb", "⊡"),
  ("dote", "⩦"), ("eArr", "⇘"), ("earhk", "⤥"), ("earr", "↘"), ("earrow", "↘"), ("ect", "§"),
  ("emi", ";"), ("eswar", "⤩"), ("etminus", "∖"), ("etmn", "∖"), ("ext", "✶"), ("fr", "𝔰"),
  ("frown", "⌢"), ("harp", "♯"), ("hchcy", "щ"), ("hcy", "ш"), ("hortmid", "∣"),
  ("hortparallel", "∥"), ("hy", "\u00ad"), ("igma", "σ"), ("igmaf", "ς"), ("igmav", "ς"),
  ("im", "∼"), ("imdot", "⩪"), ("ime", "≃"), ("imeq", "≃"), ("img", "⪞"), ("imgE", "⪠"),
  ("iml", "⪝"), ("imlE", "⪟"), ("imne", "≆"), ("implus", "⨤"), ("imrarr", "⥲"), ("larr", "←"),
  ("mallsetminus", "∖"), ("mashp", "⨳"), ("meparsl", "⧤"), ("mid", "∣"), ("mile", "⌣"),
  ("mt", "⪪"), ("mte", "⪬"), ("mtes", "⪬\ufe00"), ("oftcy", "ь"), ("ol", "/"), ("olb", "⧄"),
  ("olbar", "⌿"), ("opf", "𝕤"), ("pades", "♠"), ("padesuit", "♠"), ("par", "∥"), ("qcap", "⊓"),
  ("qcaps", "⊓\ufe00"), ("qcup", "⊔"), ("qcups", "⊔\ufe00"), ("qsub", "⊏"), ("qsube", "⊑"),
  ("qsubset", "⊏"), ("qsubseteq", "⊑"), ("qsup", "⊐"), ("qsupe", "⊒"), ("qsupset", "⊐"),
  ("qsupseteq", "⊒"), ("qu", "□"), ("quare", "□"), ("quarf", "▪"), ("quf", "▪"), ("rarr", "→"),
  ("scr", "𝓈"), ("setmn", "∖"), ("smile", "⌣"), ("starf", "⋆"), ("tar", "☆"), ("tarf", "★"),
  ("traightepsilon", "ϵ"), ("traightphi", "ϕ"), ("trns", "¯"), ("ub", "⊂"), ("ubE", "⫅"),
  ("ubdot", "⪽"), ("ube", "⊆"), ("ubedot", "⫃"), ("ubmult", "⫁"), ("ubnE", "⫋"), ("ubne", "⊊"),
  ("ubplus", "⪿"), ("ubrarr", "⥹"), ("ubset", "⊂"), ("ubseteq", "⊆"), ("ubseteqq", "⫅"),
  ("ubsetneq", "⊊"), ("ubsetneqq", "⫋"), ("ubsim", "⫇"), ("ubsub", "⫕"), ("ubsup", "⫓"),
  ("ucc", "≻"), ("uccapprox", "⪸"), ("ucccurlyeq", "≽"), ("ucceq", "⪰"), ("uccnapprox", "⪺"),
  ("uccneqq", "⪶"), ("uccnsim", "⋩"), ("uccsim", "≿"), ("um", "∑"), ("ung", "♪"), ("up", "⊃"),
  ("up1", "¹"), ("up2", "²"), ("up3", "³"), ("upE", "⫆"), ("updot", "⪾"), ("updsub", "⫘"),
  ("upe", "⊇"), ("upedot", "⫄"), ("uphsol", "⟉"), ("uphsub", "⫗"), ("uplarr", "⥻"),
  ("upmult", "⫂"), ("upnE", "⫌"), ("upne", "⊋"), ("upplus", "⫀"), ("upset", "⊃"),
  ("upseteq", "⊇"), ("upseteqq", "⫆"), ("upsetneq", "⊋"), ("upsetneqq", "⫌"), ("upsim", "⫈"),
  ("upsub", "⫔"), ("upsup", "⫖"), ("wArr", "⇙"), ("warhk", "⤦"), ("warr", "↙"), ("warrow", "↙"),
  ("wnwar", "⤪"), ("zlig", "ß")]

/-- The names that begin with a small t. -/
def smallT : List (String × String) := [
  ("arget", "⌖"), ("au", "τ"), ("brk", "⎴"), ("caron", "ť"), ("cedil", "ţ"), ("cy", "т"),
  ("dot", "\u20db"), ("elrec", "⌕"), ("fr", "𝔱"), ("here4", "∴"), ("herefore", "∴"),
  ("heta", "θ"), ("hetasym", "ϑ"), ("hetav", "ϑ"), ("hickapprox", "≈"), ("hicksim", "∼"),
  ("hinsp", "\u2009"), ("hkap", "≈"), ("hksim", "∼"), ("horn", "þ"), ("ilde", "˜"),
  ("imes", "×"), ("imesb", "⊠"), ("imesbar", "⨱"), ("imesd", "⨰"), ("int", "∭"), ("oea", "⤨"),
  ("op", "⊤"), ("opbot", "⌶"), ("opcir", "⫱"), ("opf", "𝕥"), ("opfork", "⫚"), ("osa", "⤩"),
  ("prime", "‴"), ("rade", "™"), ("riangle", "▵"), ("riangledown", "▿"), ("riangleleft", "◃"),
  ("rianglelefteq", "⊴"), ("riangleq", "≜"), ("riangleright", "▹"), ("rianglerighteq", "⊵"),
  ("ridot", "◬"), ("rie", "≜"), ("riminus", "⨺"), ("riplus", "⨹"), ("risb", "⧍"),
  ("ritime", "⨻"), ("rpezium", "⏢"), ("scr", "𝓉"), ("scy", "ц"), ("shcy", "ћ"), ("strok", "ŧ"),
  ("wixt", "≬"), ("woheadleftarrow", "↞"), ("woheadrightarrow", "↠")]

/-- The names that begin with a small u. -/
def smallU : List (String × String) := [
  ("Arr", "⇑"), ("Har", "⥣"), ("acute", "ú"), ("arr", "↑"), ("brcy", "ў"), ("breve", "ŭ"),
  ("circ", "û"), ("cy", "у"), ("darr", "⇅"), ("dblac", "ű"), ("dhar", "⥮"), ("fisht", "⥾"),
  ("fr", "𝔲"), ("grave", "ù"), ("harl", "↿"), ("harr", "↾"), ("hblk", "▀"), ("lcorn", "⌜"),
  ("lcorner", "⌜"), ("lcrop", "⌏"), ("ltri", "◸"), ("macr", "ū"), ("ml", "¨"), ("ogon", "ų"),
  ("opf", "𝕦"), ("parrow", "↑"), ("pdownarrow", "↕"), ("pharpoonleft", "↿"),
  ("pharpoonright", "↾"), ("plus", "⊎"), ("psi", "υ"), ("psih", "ϒ"), ("psilon", "υ"),
  ("puparrows", "⇈"), ("rcorn", "⌝"), ("rcorner", "⌝"), ("rcrop", "⌎"), ("ring", "ů"),
  ("rtri", "◹"), ("scr", "𝓊"), ("tdot", "⋰"), ("tilde", "ũ"), ("tri", "▵"), ("trif", "▴"),
  ("uarr", "⇈"), ("uml", "ü"), ("wangle", "⦧")]

/-- The names that begin with a small v. -/
def smallV : List (String × String) := [
  ("Arr", "⇕"), ("Bar", "⫨"), ("Barv", "⫩"), ("Dash", "⊨"), ("angrt", "⦜"), ("arepsilon", "ϵ"),
  ("arkappa", "ϰ"), ("arnothing", "∅"), ("arphi", "ϕ"), ("arpi", "ϖ"), ("arpropto", "∝"),
  ("arr", "↕"), ("arrho", "ϱ"), ("arsigma", "ς"), ("arsubsetneq", "⊊\ufe00"),
  ("arsubsetneqq", "⫋\ufe00"), ("arsupsetneq", "⊋\ufe00"), ("arsupsetneqq", "⫌\ufe00"),
  ("artheta", "ϑ"), ("artriangleleft", "⊲"), ("artriangleright", "⊳"), ("cy", "в"),
  ("dash", "⊢"), ("ee", "∨"), ("eebar", "⊻"), ("eeeq", "≚"), ("ellip", "⋮"), ("erbar", "|"),
  ("ert", "|"), ("fr", "𝔳"), ("ltri", "⊲"), ("nsub", "⊂\u20d2"), ("nsup", "⊃\u20d2"),
  ("opf", "𝕧"), ("prop", "∝"), ("rtri", "⊳"), ("scr", "𝓋"), ("subnE", "⫋\ufe00"),
  ("subne", "⊊\ufe00"), ("supnE", "⫌\ufe00"), ("supne", "⊋\ufe00"), ("zigzag", "⦚")]

/-- The names that begin with a small w. -/
def smallW : List (String × String) := [
  ("circ", "ŵ"), ("edbar", "⩟"), ("edge", "∧"), ("edgeq", "≙"), ("eierp", "℘"), ("fr", "𝔴"),
  ("opf", "𝕨"), ("p", "℘"), ("r", "≀"), ("reath", "≀"), ("scr", "𝓌")]

/-- The names that begin with a small x. -/
def smallX : List (String × String) := [
  ("cap", "⋂"), ("circ", "◯"), ("cup", "⋃"), ("dtri", "▽"), ("fr", "𝔵"), ("hArr", "⟺"),
  ("harr", "⟷"), ("i", "ξ"), ("lArr", "⟸"), ("larr", "⟵"), ("map", "⟼"), ("nis", "⋻"),
  ("odot", "⨀"), ("opf", "𝕩"), ("oplus", "⨁"), ("otime", "⨂"), ("rArr", "⟹"), ("rarr", "⟶"),
  ("scr", "𝓍"), ("sqcup", "⨆"), ("uplus", "⨄"), ("utri", "△"), ("vee", "⋁"), ("wedge", "⋀")]

/-- The names that begin with a small y. -/
def smallY : List (String × String) := [
  ("acute", "ý"), ("acy", "я"), ("circ", "ŷ"), ("cy", "ы"), ("en", "¥"), ("fr", "𝔶"),
  ("icy", "ї"), ("opf", "𝕪"), ("scr", "𝓎"), ("ucy", "ю"), ("uml", "ÿ")]

/-- The names that begin with a small z. -/
def smallZ : List (String × String) := [
  ("acute", "ź"), ("caron", "ž"), ("cy", "з"), ("dot", "ż"), ("eetrf", "ℨ"), ("eta", "ζ"),
  ("fr", "𝔷"), ("hcy", "ж"), ("igrarr", "⇝"), ("opf", "𝕫"), ("scr", "𝓏"), ("wj", "\u200d"),
  ("wnj", "\u200c")]

end TutorialPages.Markdown.NamedReference
