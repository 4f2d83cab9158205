import TutorialPages.Markdown.Renderer
import TutorialPages.Proofs.Markdown.SyntaxTree
import TutorialPages.Proofs.Slug
import TutorialPages.Proofs.Text.Integer
import TutorialPages.Proofs.Text.Search

/-!
# Anchors only insert an attribute

A renderer with anchors reads a fragment twice, as HTML and as a syntax tree, and replaces the first
opening tag of the heading. The reader of Markdown is arbitrary here, and the escaping of an
attribute is only asked to keep the characters without a meaning; the renderer of this library is
one of these. Main statement: the output is the one without anchors, but for the attribute `id` of a
heading that both the tree and the output begin with; its value is a slug, which is written as it is
and ends neither the attribute nor the tag.
-/

namespace TutorialPages

open Markdown (Dialect)

/-! ## Escaping -/

/-- Whether `escape` writes only the given marks in another way. -/
def RewritesOnly (marks : List Char) (escape : Text → Text) : Prop :=
  ∃ rewrite : Char → Text,
    (∀ c, c ∉ marks → rewrite c = [c]) ∧ ∀ text, escape text = text.flatMap rewrite

theorem RewritesOnly.eq_self {marks : List Char} {escape : Text → Text}
    (h : RewritesOnly marks escape) {text : Text} (hfree : ∀ c ∈ text, c ∉ marks) :
    escape text = text := by
  obtain ⟨rewrite, hkeeps, hescape⟩ := h
  have hsame : text.map rewrite = text.map fun c => [c] :=
    List.map_congr_left fun c hc => hkeeps c (hfree c hc)
  rw [hescape, List.flatMap_def, hsame, ← List.flatMap_def, List.flatMap_singleton']

/-- A slug is written as it is. -/
theorem RewritesOnly.ofText {escape : Text → Text} (h : RewritesOnly markup escape) (text : Text) :
    escape (Slug.ofText text) = Slug.ofText text :=
  h.eq_self fun _ => Slug.not_mem_markup_of_mem

/-- A text as the value of an attribute in double quotes. -/
def encodeAttribute (text : Text) : Text :=
  text.flatMap fun
    | '&' => "&amp;"
    | '<' => "&lt;"
    | '>' => "&gt;"
    | '"' => "&quot;"
    | c => [c]

theorem rewritesOnly_encodeAttribute : RewritesOnly markup encodeAttribute := by
  refine ⟨_, fun c hc => ?_, fun text => rfl⟩
  simp only [markup, List.mem_cons, List.not_mem_nil, or_false, not_or] at hc
  split <;> simp_all

/-! ## Tags -/

namespace LeadingHeading

variable {leading : LeadingHeading} {html : Text}

theorem anchor_append (h : Slug.ofText (Phrase.values leading.parts) ≠ []) (rest : Text) :
    leading.anchor (openingTag leading.depth ++ rest) =
      anchoredTag leading.depth (Slug.ofText (Phrase.values leading.parts)) ++ rest := by
  -- the opening tag is found in front, and the tag with the identifier takes its place
  have hprefix :
      (openingTag leading.depth).isPrefixOf (openingTag leading.depth ++ rest) = true := by
    rw [List.isPrefixOf_iff_prefix]
    exact List.prefix_append _ _
  simp only [anchor]
  rw [if_neg h, if_pos hprefix, List.drop_left]

theorem anchor_of_slug_eq_nil (h : Slug.ofText (Phrase.values leading.parts) = []) :
    leading.anchor html = html := by
  simp only [anchor]
  rw [if_pos h]

theorem anchor_of_not_prefix (h : ¬ openingTag leading.depth <+: html) :
    leading.anchor html = html := by
  have hprefix : ¬ (openingTag leading.depth).isPrefixOf html = true := by
    rw [List.isPrefixOf_iff_prefix]
    exact h
  simp only [anchor]
  rw [if_neg hprefix, ite_self]

/-- A tag with an identifier is longer than one without. -/
theorem anchoredTag_append_ne (depth : Nat) (slug rest : Text) :
    anchoredTag depth slug ++ rest ≠ openingTag depth ++ rest := by
  intro h
  -- the rest is the same, so the tags would have to be of one length
  have hlength := congrArg List.length (List.append_cancel_right h)
  simp [anchoredTag, openingTag, Text.join] at hlength

/-- The digits of a depth are no marks. -/
theorem not_mem_ofNat {c : Char} (h : c.isDigit = false) (depth : Nat) : c ∉ Text.ofNat depth := by
  intro hc
  rw [(Text.areDigits_ofNat depth).2 c hc] at h
  exact absurd h (by decide)

/-- A slug ends at the quote behind it. -/
theorem quoted?_anchoredTag (depth : Nat) (text rest : Text) :
    Text.quoted? (anchoredTag depth (Slug.ofText text) ++ rest) = some (Slug.ofText text) := by
  have hfront : '"' ∉ Text.join ["<h", Text.ofNat depth, " id="] := by
    simpa [Text.join] using not_mem_ofNat (by decide) depth
  have hslug : '"' ∉ Slug.ofText text := fun hquote =>
    Slug.not_mem_markup_of_mem hquote (by decide)
  have hquoted := Text.quoted?_append_cons hfront hslug ('>' :: rest)
  simpa [anchoredTag, Text.join] using hquoted

/-- A tag with a slug ends at the bracket behind it. -/
theorem after?_anchoredTag (depth : Nat) (text rest : Text) :
    Text.after? '>' (anchoredTag depth (Slug.ofText text) ++ rest) = some rest := by
  have hslug : '>' ∉ Slug.ofText text := fun hbracket =>
    Slug.not_mem_markup_of_mem hbracket (by decide)
  have hfront :
      '>' ∉ Text.join ["<h", Text.ofNat depth, " id=\"", Slug.ofText text, "\""] := by
    simpa [Text.join, hslug] using not_mem_ofNat (by decide) depth
  have hafter := Text.after?_append_cons hfront rest
  simpa [anchoredTag, Text.join] using hafter

end LeadingHeading

/-! ## Engines -/

/-- A reader of Markdown and a writer of attributes. -/
structure Engine where
  /-- The HTML of a fragment. -/
  html : Dialect → Renderer
  /-- The syntax tree of a fragment. -/
  tree : Dialect → Text → Except RenderError Node
  /-- A text as the value of an attribute in double quotes. -/
  escape : Text → Text

namespace Engine

/-- Puts an identifier into the tag of the heading that a syntax tree begins with. -/
def anchor (engine : Engine) (root : Node) (html : Text) : Text :=
  match root.children.head? with
  | some (.heading depth children) =>
    let slug := Slug.ofText (Node.gatherAll [] children)
    let opening := LeadingHeading.openingTag depth
    if slug = [] then html
    else if opening.isPrefixOf html then
      Text.replaceFirst opening (LeadingHeading.anchoredTag depth (engine.escape slug)) html
    else html
  | _ => html

/-- The renderer of an engine. The tree is read only where anchors are asked for. -/
def renderer (engine : Engine) (options : RenderOptions) : Renderer := fun fragment => do
  let html ← engine.html (.ofOptions options) fragment
  if options.headingIds then
    let root ← engine.tree (.ofOptions options) fragment
    return engine.anchor root html
  else return html

variable {engine : Engine} {options : RenderOptions} {fragment : Text}

/-- The tag that is replaced is the one that the HTML begins with; the slug needs no escaping. -/
theorem anchor_eq (escapes : RewritesOnly markup engine.escape) (root : Node) (html : Text) :
    engine.anchor root html = anchorHeading root.leadingHeading? html := by
  unfold anchor Node.leadingHeading?
  generalize root.children.head? = first
  match first with
  -- only a heading at the front is looked at, in the tree as in the summary of it
  | none | some (.text _) | some (.code _) | some (.math _) | some (.other _) => rfl
  | some (.heading depth children) =>
    simp only [anchorHeading, LeadingHeading.anchor, Node.gatherAll_eq, List.nil_append,
      Node.values_phrases, escapes.ofText]
    split
    · rfl
    · split
      · -- the guard makes the tag a prefix, so its first occurrence is at the front
        rename_i hprefix
        obtain ⟨rest, rfl⟩ := List.isPrefixOf_iff_prefix.mp hprefix
        rw [Text.replaceFirst_append, List.drop_left]
      · rfl

/-- `html` begins with the tag of the heading that `root` begins with, and what is said below that
heading has the slug `slug`. -/
structure TakesAnchor (root : Node) (html : Text) (depth : Nat) (slug rest : Text) : Prop where
  leads : ∃ children,
    root.children.head? = some (.heading depth children) ∧ slug = Slug.ofText (Node.said children)
  named : slug ≠ []
  opens : html = LeadingHeading.openingTag depth ++ rest

variable {root : Node} {html slug rest : Text} {depth : Nat}

theorem anchor_of_takesAnchor (escapes : RewritesOnly markup engine.escape)
    (h : TakesAnchor root html depth slug rest) :
    engine.anchor root html = LeadingHeading.anchoredTag depth slug ++ rest := by
  obtain ⟨⟨children, hfirst, rfl⟩, hnamed, rfl⟩ := h
  have hleading : root.leadingHeading? = some ⟨depth, Node.phrases children⟩ :=
    Node.leadingHeading?_eq_some_iff.mpr ⟨children, hfirst, rfl⟩
  -- the text of the heading, as the value of its parts
  rw [← Node.values_phrases] at hnamed ⊢
  rw [anchor_eq escapes, hleading, anchorHeading]
  exact LeadingHeading.anchor_append hnamed rest

theorem anchor_of_not_takesAnchor (escapes : RewritesOnly markup engine.escape)
    (h : ¬ ∃ depth slug rest, TakesAnchor root html depth slug rest) :
    engine.anchor root html = html := by
  rw [anchor_eq escapes]
  cases hleading : root.leadingHeading? with
  | none => rfl
  | some leading =>
    obtain ⟨children, hfirst, hparts⟩ := Node.leadingHeading?_eq_some_iff.mp hleading
    rw [anchorHeading]
    -- the heading has no slug, or its tag does not come first
    by_cases hslug : Slug.ofText (Phrase.values leading.parts) = []
    · exact LeadingHeading.anchor_of_slug_eq_nil hslug
    · apply LeadingHeading.anchor_of_not_prefix
      rintro ⟨rest, rfl⟩
      rw [← hparts, Node.values_phrases] at hslug
      exact h ⟨leading.depth, _, rest, ⟨children, hfirst, rfl⟩, hslug, rfl⟩

/-- Only an anchor makes a difference. -/
theorem anchor_ne_iff (escapes : RewritesOnly markup engine.escape) :
    engine.anchor root html ≠ html ↔ ∃ depth slug rest, TakesAnchor root html depth slug rest := by
  constructor
  · intro hne
    by_contra hnone
    exact hne (anchor_of_not_takesAnchor escapes hnone)
  · rintro ⟨depth, slug, rest, h⟩
    rw [anchor_of_takesAnchor escapes h, h.opens]
    exact LeadingHeading.anchoredTag_append_ne depth slug rest

/-! ## Rendering -/

theorem renderer_without_anchors (engine : Engine) (options : RenderOptions) (fragment : Text) :
    engine.renderer { options with headingIds := false } fragment =
      engine.html (.ofOptions options) fragment := by
  change (engine.html (.ofOptions options) fragment >>= pure) = _
  rw [bind_pure]

theorem renderer_with_anchors (engine : Engine) (options : RenderOptions) (fragment : Text) :
    engine.renderer { options with headingIds := true } fragment = (do
      let html ← engine.html (.ofOptions options) fragment
      let root ← engine.tree (.ofOptions options) fragment
      return engine.anchor root html) := rfl

/-- Asking for anchors inserts one attribute into the tag that the output begins with, or nothing.
The attribute is there exactly when the tree begins with a heading that has a slug and the output
begins with the tag of that heading; it holds the slug and ends with it. -/
theorem renderer_headingIds (engine : Engine) (escapes : RewritesOnly markup engine.escape)
    (options : RenderOptions) (fragment : Text) :
    engine.renderer { options with headingIds := false } fragment =
      engine.html (.ofOptions options) fragment ∧
    (∀ error, engine.html (.ofOptions options) fragment = .error error →
      engine.renderer { options with headingIds := true } fragment = .error error) ∧
    (∀ html error, engine.html (.ofOptions options) fragment = .ok html →
      engine.tree (.ofOptions options) fragment = .error error →
      engine.renderer { options with headingIds := true } fragment = .error error) ∧
    (∀ html root, engine.html (.ofOptions options) fragment = .ok html →
      engine.tree (.ofOptions options) fragment = .ok root →
      ∃ result, engine.renderer { options with headingIds := true } fragment = .ok result ∧
        (result ≠ html ↔ ∃ depth slug rest, TakesAnchor root html depth slug rest) ∧
        ∀ depth slug rest, TakesAnchor root html depth slug rest →
          result = LeadingHeading.anchoredTag depth slug ++ rest ∧
          Text.quoted? result = some slug ∧ Text.after? '>' result = some rest) ∧
    ∀ text, (∀ c ∈ Slug.ofText text, c ∉ markup) ∧
      engine.escape (Slug.ofText text) = Slug.ofText text := by
  -- with anchors the tree is asked for as well, once there is HTML, and each answer may fail
  refine ⟨renderer_without_anchors engine options fragment, ?_, ?_, ?_, ?_⟩
  · intro error hhtml
    rw [renderer_with_anchors, hhtml]
    rfl
  · intro html error hhtml htree
    rw [renderer_with_anchors, hhtml, htree]
    rfl
  · intro html root hhtml htree
    refine ⟨engine.anchor root html, ?_, anchor_ne_iff escapes, ?_⟩
    · rw [renderer_with_anchors, hhtml, htree]
      rfl
    · intro depth slug rest h
      obtain ⟨children, -, rfl⟩ := h.leads
      rw [anchor_of_takesAnchor escapes h]
      exact ⟨rfl, LeadingHeading.quoted?_anchoredTag .., LeadingHeading.after?_anchoredTag ..⟩
  · intro text
    exact ⟨fun c => Slug.not_mem_markup_of_mem, escapes.ofText text⟩

/-- An engine that gives the same answers for every fragment. -/
def giving (html : Text) (root : Node) : Engine :=
  ⟨fun _ _ => .ok html, fun _ _ => .ok root, encodeAttribute⟩

/-- A heading whose slug comes from three places of its tree, and a heading without a slug. -/
theorem renderer_headingIds_pods :
    (giving "<h2><em>Pods</em> &amp; <code>kubectl</code></h2>"
      (.other [.heading 2 [.other [.text "Pods"], .text " & ", .code "kubectl"]])).renderer
        { headingIds := true } "## *Pods* & `kubectl`" =
      .ok "<h2 id=\"pods--kubectl\"><em>Pods</em> &amp; <code>kubectl</code></h2>".toList ∧
    (giving "<h1>?</h1>" (.other [.heading 1 [.text "?"]])).renderer
      { headingIds := true } "# ?" = .ok "<h1>?</h1>".toList := by
  constructor
  · obtain ⟨result, hrender, -, hanchor⟩ := (renderer_headingIds
      (giving "<h2><em>Pods</em> &amp; <code>kubectl</code></h2>"
        (.other [.heading 2 [.other [.text "Pods"], .text " & ", .code "kubectl"]]))
      rewritesOnly_encodeAttribute {} "## *Pods* & `kubectl`").2.2.2.1 _ _ rfl rfl
    rw [hrender, (hanchor 2 "pods--kubectl" "<em>Pods</em> &amp; <code>kubectl</code></h2>"
      ⟨⟨_, rfl, by decide⟩, by decide, by decide⟩).1]
    decide
  · obtain ⟨result, hrender, hne, -⟩ := (renderer_headingIds
      (giving "<h1>?</h1>" (.other [.heading 1 [.text "?"]]))
      rewritesOnly_encodeAttribute {} "# ?").2.2.2.1 _ _ rfl rfl
    -- the slug of the heading is empty, so there is no anchor to take
    have hnone : ¬ result ≠ "<h1>?</h1>".toList := by
      rw [hne]
      rintro ⟨depth, slug, rest, ⟨children, hfirst, rfl⟩, hnamed, -⟩
      cases hfirst
      exact hnamed (by decide)
    rw [hrender, not_not.mp hnone]

/-! ## The renderer of this library -/

/-- The engine of this library. -/
def own : Engine where
  html dialect fragment := .ok (Markdown.toHtml dialect fragment)
  tree dialect fragment := .ok (.ofLeadingHeading (Markdown.leadingHeadingOf dialect fragment))
  escape := encodeAttribute

theorem renderer_own (options : RenderOptions) :
    own.renderer options = Markdown.renderer options := by
  funext fragment
  obtain ⟨gfm, rawHtml, headingIds⟩ := options
  cases headingIds with
  | false => exact renderer_without_anchors own ⟨gfm, rawHtml, true⟩ fragment
  | true =>
    change Except.ok (own.anchor (.ofLeadingHeading _) _) = _
    rw [anchor_eq rewritesOnly_encodeAttribute, Node.leadingHeading?_ofLeadingHeading]
    rfl

end Engine

end TutorialPages
