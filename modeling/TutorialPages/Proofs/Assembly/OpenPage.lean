import TutorialPages.Proofs.Assembly.Success
import TutorialPages.Proofs.Layout.Progress

/-!
# The open page and its lines

After the lines of a page that is still open the assembly holds exactly what those lines determine:
the settled fragments are on the draft, and the block that is not closed yet waits. `openPage` is
that state. The laws here say for which further line it is kept, and what the page becomes when it
is closed.
-/

namespace TutorialPages

namespace Fragment

variable {setting : Setting}

theorem accepted_line_iff {text : Text} :
    (Fragment.line text).Accepted setting ↔
      (Image.isReference text = true →
        ∃ asset, (Image.embed setting.files setting.base text).outcome = .ok asset) ∧
      ∃ html, setting.renderer text = .ok html := by
  constructor
  · intro h
    rcases h with ⟨hembedded, hrendered⟩
    exact ⟨hembedded text rfl, hrendered⟩
  · intro h
    rcases h with ⟨hembedded, hrendered⟩
    refine ⟨?_, hrendered⟩
    rintro other ⟨rfl⟩
    exact hembedded

theorem accepted_block_iff {block : Block} :
    (Fragment.block block).Accepted setting ↔ ∃ html, setting.renderer block.source = .ok html := by
  constructor
  · intro h
    rcases h with ⟨-, hrendered⟩
    exact hrendered
  · intro hrendered
    refine ⟨?_, hrendered⟩
    rintro other ⟨⟩

end Fragment

namespace PageBody

open Assembly Layout Traced

/-- The state of an open page after its lines. -/
def openPage (setting : Setting) (body : PageBody) : OpenPage where
  draft :=
    ⟨body.openedAt, body.pageWith setting (body.settled setting.options.groupCodeFences)⟩
  tracker := (body.pending? setting.options.groupCodeFences).map Block.fence
  pending := (body.pending? setting.options.groupCodeFences).map fun block =>
    ⟨block.openedAt, block.fence.marker, block.source⟩

variable {setting : Setting} {body : PageBody} {line : Text} {assembly : Assembly}

@[simp]
theorem concat_openedAt (body : PageBody) (line : Text) :
    (body.concat line).openedAt = body.openedAt := rfl

theorem openPage_pending_of_none
    (hblock : body.pending? setting.options.groupCodeFences = none) :
    (body.openPage setting).pending = none := by
  rw [openPage, Option.map_eq_none_iff]
  exact hblock

theorem openPage_pending_of_some {block : Block}
    (hblock : body.pending? setting.options.groupCodeFences = some block) :
    (body.openPage setting).pending =
      some ⟨block.openedAt, block.fence.marker, block.source⟩ := by
  simp only [openPage, hblock, Option.map_some]

/-- A page that has just been opened has no lines. -/
theorem openPage_start (setting : Setting) (number : Nat) :
    (PageBody.mk number []).openPage setting = .start number := by
  simp [openPage, OpenPage.start, Draft.start, FenceTracker.start, pageWith, Page.blank,
    preCommands, postChecks, Page.assetsOf]

/-! ## Fragments on the draft -/

/-- A line of text brings no command. -/
theorem pageWith_concat_of_not_isMarked (h : Directive.isMarked line = false)
    (fragments : List Fragment) :
    (body.concat line).pageWith setting fragments = body.pageWith setting fragments := by
  simp [pageWith, preCommands_concat, postChecks_concat, directive?_of_not_isMarked h]

/-- A block adds its HTML and no image. -/
theorem pageWith_append_block {fragments : List Fragment} {block : Block} {html : Text}
    (hrender : setting.renderer block.source = .ok html) :
    body.pageWith setting (fragments ++ [.block block]) =
      { body.pageWith setting fragments with
        text := (body.pageWith setting fragments).text ++ html } := by
  have hhtml : (Fragment.block block).html setting = html := Fragment.html_of_ok hrender
  have hasset : (Fragment.block block).asset? setting.files setting.base = none := rfl
  simp [pageWith, hhtml, hasset]

/-- A single line without an image adds its HTML. -/
theorem pageWith_append_line {fragments : List Fragment} {html : Text}
    (hreference : Image.isReference line = false) (hrender : setting.renderer line = .ok html) :
    body.pageWith setting (fragments ++ [.line line]) =
      { body.pageWith setting fragments with
        text := (body.pageWith setting fragments).text ++ html } := by
  have hhtml : (Fragment.line line).html setting = html := Fragment.html_of_ok hrender
  have hasset : (Fragment.line line).asset? setting.files setting.base = none := by
    simp [Fragment.asset?, hreference]
  simp [pageWith, hhtml, hasset]

/-- A single line with an image adds the image and its HTML. -/
theorem pageWith_append_image {fragments : List Fragment} {html : Text} {asset : Asset}
    (hreference : Image.isReference line = true)
    (hembed : (Image.embed setting.files setting.base line).outcome = .ok asset)
    (hrender : setting.renderer line = .ok html) :
    body.pageWith setting (fragments ++ [.line line]) =
      { body.pageWith setting fragments with
        text := (body.pageWith setting fragments).text ++ html
        assets := some ((body.pageWith setting fragments).assets.getD [] ++ [asset]) } := by
  -- the lists of images are compared as lists, so it does not matter whether one was there before
  have hhtml : (Fragment.line line).html setting = html := Fragment.html_of_ok hrender
  have hasset : (Fragment.line line).asset? setting.files setting.base = some asset := by
    simp [Fragment.asset?, hreference, hembed, Except.toOption]
  simp [pageWith, hhtml, hasset, Page.assetsOf_concat]

/-! ## A line of text -/

/-- A single line is put on the draft when it is accepted. -/
theorem addLine_openPage_eq_ok {number : Nat} {page' : OpenPage}
    (hchecks : body.postChecks setting.files setting.base = []) :
    (addLine setting number line (body.openPage setting)).outcome = .ok page' ↔
      (Fragment.line line).Accepted setting ∧
        page' = { body.openPage setting with
          draft.page := body.pageWith setting
            (body.settled setting.options.groupCodeFences ++ [.line line]) } := by
  rw [addLine_eq_ok, Fragment.accepted_line_iff]
  simp only [embedImage_eq_ok, addRendered_eq_ok]
  -- without an image nothing is embedded, and the rendering is all that can fail
  cases hreference : Image.isReference line with
  | false =>
    simp only [Bool.false_eq_true, ↓reduceIte, exists_eq_left, false_implies, true_and]
    constructor
    · intro h
      rcases h with ⟨html, hrender, -, rfl⟩
      refine ⟨⟨html, hrender⟩, ?_⟩
      simp [openPage, pageWith_append_line hreference hrender]
    · intro h
      rcases h with ⟨⟨html, hrender⟩, rfl⟩
      refine ⟨html, hrender, hchecks, ?_⟩
      simp [openPage, pageWith_append_line hreference hrender]
  | true =>
    simp only [↓reduceIte, true_implies]
    -- with an image there are two ways to fail, and the image is added before the HTML
    constructor
    · intro h
      rcases h with ⟨middle, ⟨asset, hembed, rfl⟩, html, hrender, -, rfl⟩
      refine ⟨⟨⟨asset, hembed⟩, html, hrender⟩, ?_⟩
      simp [openPage, Draft.addAsset, pageWith_append_image hreference hembed hrender]
    · intro h
      rcases h with ⟨⟨⟨asset, hembed⟩, html, hrender⟩, rfl⟩
      refine ⟨_, ⟨asset, hembed, rfl⟩, html, hrender, hchecks, ?_⟩
      simp [openPage, Draft.addAsset, pageWith_append_image hreference hembed hrender]

/-- A line of text inside a block that waits for its end. -/
theorem feedBlock_openPage_eq_ok {page' : OpenPage} {block : Block} {pending : PendingFence}
    (hmarked : Directive.isMarked line = false)
    (hchecks : body.postChecks setting.files setting.base = [])
    (hblock : body.pending? setting.options.groupCodeFences = some block)
    (hpending : (body.openPage setting).pending = some pending) :
    (feedBlock setting line (body.openPage setting) pending).outcome = .ok page' ↔
      (∀ fragment ∈ body.settledBy setting.options.groupCodeFences line,
        fragment.Accepted setting) ∧ page' = (body.concat line).openPage setting := by
  -- tracker and source of the block that waits are those of the block that the lines make
  have htracker : (body.openPage setting).tracker = some block.fence := by
    simp [openPage, hblock]
  have hsource : pending.source ++ '\n' :: line = (block.concat line).source := by
    simp only [openPage, hblock, Option.map_some, Option.some.injEq] at hpending
    rw [← hpending, Block.source_concat]
  rw [feedBlock_eq htracker, hsource]
  cases hcloses : block.fence.closes line with
  | true =>
    -- the block is complete and goes on the draft
    simp only [↓reduceIte, addRendered_eq_ok, settledBy, hblock, hmarked, hcloses,
      Bool.false_eq_true, List.mem_singleton, forall_eq, Fragment.accepted_block_iff, openPage,
      settled_concat, pending?_concat_of_not_isMarked hmarked]
    constructor
    · intro h
      rcases h with ⟨html, hrender, -, rfl⟩
      refine ⟨⟨html, hrender⟩, ?_⟩
      simp [pageWith_concat_of_not_isMarked hmarked, pageWith_append_block hrender]
    · intro h
      rcases h with ⟨⟨html, hrender⟩, rfl⟩
      refine ⟨html, hrender, hchecks, ?_⟩
      simp [pageWith_concat_of_not_isMarked hmarked, pageWith_append_block hrender]
  | false =>
    -- the block goes on, and nothing is put on the draft
    have hopen : (body.concat line).openPage setting =
        { body.openPage setting with
          pending := some ⟨block.openedAt, block.fence.marker, (block.concat line).source⟩ } := by
      simp [openPage, settled_concat, settledBy, pending?_concat_of_not_isMarked hmarked,
        pageWith_concat_of_not_isMarked hmarked, hblock, hmarked, hcloses, Block.concat]
    have hwaiting : pending = ⟨block.openedAt, block.fence.marker, block.source⟩ := by
      simpa [openPage, hblock] using hpending.symm
    have hsettled : body.settledBy setting.options.groupCodeFences line = [] := by
      simp [settledBy, hblock, hmarked, hcloses]
    rw [hopen, hwaiting, hsettled]
    simp [eq_comm]

section NoBlock

variable (hmarked : Directive.isMarked line = false)
  (hblock : body.pending? setting.options.groupCodeFences = none)

include hmarked hblock

/-- A blank line changes nothing. -/
theorem openPage_concat_of_blank (hblank : Text.allBlank line = true) :
    body.settledBy setting.options.groupCodeFences line = [] ∧
      (body.concat line).openPage setting = body.openPage setting := by
  -- a blank line settles nothing, and no block begins with it
  have hsettled : body.settledBy setting.options.groupCodeFences line = [] := by
    simp [settledBy, hblock, hblank]
  refine ⟨hsettled, ?_⟩
  simp [openPage, settled_concat, hsettled, pending?_concat_of_not_isMarked hmarked,
    pageWith_concat_of_not_isMarked hmarked, hblock, hblank]

/-- A line with an opening fence starts a block. -/
theorem openPage_concat_of_opener {fence : Fence} (hblank : Text.allBlank line = false)
    (hgrouped : setting.options.groupCodeFences = true)
    (hopener : Fence.opener? line = some fence) :
    body.settledBy setting.options.groupCodeFences line = [] ∧
      (body.concat line).openPage setting =
        { body.openPage setting with
          tracker := some fence
          pending := some ⟨body.openedAt + 1 + body.lines.length, fence.marker, line⟩ } := by
  rw [hgrouped] at hblock
  have hsettled : body.settledBy true line = [] := by
    simp [settledBy, hblock, hopener]
  refine ⟨by rw [hgrouped, hsettled], ?_⟩
  -- the block has one line so far, so its source is this line
  simp [openPage, settled_concat, hsettled, hgrouped, hblock, hblank, hopener,
    pending?_concat_of_not_isMarked hmarked, pageWith_concat_of_not_isMarked hmarked,
    Block.source, Block.lines, Text.joinWith]

/-- Any other line is a fragment by itself. -/
theorem openPage_concat_of_line (hblank : Text.allBlank line = false)
    (hopener : (if setting.options.groupCodeFences then Fence.opener? line else none) = none) :
    body.settledBy setting.options.groupCodeFences line = [.line line] ∧
      (body.concat line).openPage setting =
        { body.openPage setting with
          draft.page := body.pageWith setting
            (body.settled setting.options.groupCodeFences ++ [.line line]) } := by
  -- the line settles itself, and no block waits behind it
  have hsettled : body.settledBy setting.options.groupCodeFences line = [.line line] := by
    rw [settledBy, hblock]
    cases hgrouped : setting.options.groupCodeFences with
    | false => simp [hmarked, hblank]
    | true =>
      rw [hgrouped, if_pos rfl] at hopener
      simp [hmarked, hblank, hopener]
  have hpending : (body.concat line).pending? setting.options.groupCodeFences = none := by
    rw [pending?_concat_of_not_isMarked hmarked, hblock]
    cases hgrouped : setting.options.groupCodeFences with
    | false => simp
    | true =>
      rw [hgrouped, if_pos rfl] at hopener
      simp [hopener]
  refine ⟨hsettled, ?_⟩
  simp [openPage, settled_concat, hsettled, hpending, hblock,
    pageWith_concat_of_not_isMarked hmarked]

/-- A line of text where no block waits for its end. -/
theorem feedText_openPage_eq_ok {page' : OpenPage} :
    (feedText setting (body.openedAt + 1 + body.lines.length) line
        (body.openPage setting)).outcome = .ok page' ↔
      body.postChecks setting.files setting.base = [] ∧
        (∀ fragment ∈ body.settledBy setting.options.groupCodeFences line,
          fragment.Accepted setting) ∧ page' = (body.concat line).openPage setting := by
  -- where no block waits, no fence is followed, so the line is judged by its own marks
  have htracker : (body.openPage setting).tracker = none := by
    simp [openPage, hblock]
  have haccepts : (body.openPage setting).draft.acceptsText = true ↔
      body.postChecks setting.files setting.base = [] := Draft.acceptsText_iff
  rw [feedText_eq htracker, ← haccepts]
  cases hdraft : (body.openPage setting).draft.acceptsText with
  -- behind a post-check both sides fail
  | false => simp
  | true =>
    simp only [Bool.true_eq_false, ↓reduceIte, true_and]
    -- the cases of `feedText` are those of `settledBy`
    cases hblank : Text.allBlank line with
    | true =>
      obtain ⟨hsettled, hopen⟩ := openPage_concat_of_blank hmarked hblock hblank
      simp [hsettled, hopen, eq_comm]
    | false =>
      simp only [Bool.false_eq_true, ↓reduceIte]
      cases hopener : (if setting.options.groupCodeFences then Fence.opener? line else none) with
      | some fence =>
        obtain ⟨hgrouped, hfence⟩ : setting.options.groupCodeFences = true ∧
            Fence.opener? line = some fence := by
          simpa using hopener
        obtain ⟨hsettled, hopen⟩ :=
          openPage_concat_of_opener hmarked hblock hblank hgrouped hfence
        simp [hsettled, hopen, eq_comm]
      | none =>
        obtain ⟨hsettled, hopen⟩ := openPage_concat_of_line hmarked hblock hblank hopener
        rw [addLine_openPage_eq_ok (haccepts.mp hdraft), hsettled, hopen]
        simp

end NoBlock

/-! ## Closing the page -/

/-- Ends the block that waits, if one does. -/
theorem flushFence_openPage_eq_ok {flushed : OpenPage × Assembly}
    (hfirst : body.TextFirst setting.files setting.base) :
    (flushFence setting (body.openPage setting) assembly).outcome = .ok flushed ↔
      (∀ block, body.pending? setting.options.groupCodeFences = some block →
        (Fragment.block block).Accepted setting) ∧
      flushed = (⟨⟨body.openedAt, body.page setting⟩, .start, none⟩,
        { assembly with warnings := assembly.warnings ++
          ((body.pending? setting.options.groupCodeFences).toList.map
            (Block.warning setting.options)) }) := by
  cases hblock : body.pending? setting.options.groupCodeFences with
  | none =>
    have hpending := openPage_pending_of_none hblock
    -- without a block the page is settled already
    have hopen : body.openPage setting =
        ⟨⟨body.openedAt, body.page setting⟩, .start, none⟩ := by
      simp [openPage, page, fragments_eq, hblock, FenceTracker.start]
    rw [flushFence_of_none hpending, outcome_pure_eq_ok, hopen]
    simp
  | some block =>
    have hpending := openPage_pending_of_some hblock
    -- the block has text behind all other text, so no check stands before it
    have hchecks : body.postChecks setting.files setting.base = [] :=
      postChecks_eq_nil_of_pending? hfirst hblock
    have hpage : ∀ html, setting.renderer block.source = .ok html →
        body.page setting =
          { body.pageWith setting (body.settled setting.options.groupCodeFences) with
            text := (body.pageWith setting
              (body.settled setting.options.groupCodeFences)).text ++ html } := by
      intro html hrender
      simp [page, fragments_eq, hblock, pageWith_append_block hrender]
    rw [flushFence_of_some hpending]
    -- the block becomes the last fragment of the page
    simp only [Option.some.injEq, forall_eq', Fragment.accepted_block_iff]
    constructor
    · intro h
      rcases h with ⟨html, hrender, -, rfl⟩
      refine ⟨⟨html, hrender⟩, ?_⟩
      simp [openPage, hpage html hrender, Block.warning]
    · intro h
      rcases h with ⟨⟨html, hrender⟩, rfl⟩
      refine ⟨html, hrender, hchecks, ?_⟩
      simp [openPage, hpage html hrender, Block.warning]

/-- Closes the page with all that its lines hold. -/
theorem closePage_openPage_eq_ok {assembly' : Assembly}
    (hfirst : body.TextFirst setting.files setting.base) :
    (closePage setting (body.openPage setting) assembly).outcome = .ok assembly' ↔
      (∀ block, body.pending? setting.options.groupCodeFences = some block →
        (Fragment.block block).Accepted setting) ∧
      (body.page setting).isEmpty = false ∧
      assembly' =
        { current := none
          pages := assembly.pages ++ [body.page setting]
          warnings := assembly.warnings ++
            (body.pending? setting.options.groupCodeFences).toList.map
              (Block.warning setting.options) } := by
  rw [closePage_eq_ok]
  simp only [flushFence_openPage_eq_ok hfirst]
  constructor
  · intro h
    rcases h with ⟨flushed, ⟨haccepted, rfl⟩, hinhabited, rfl⟩
    exact ⟨haccepted, hinhabited, rfl⟩
  · intro h
    rcases h with ⟨haccepted, hinhabited, rfl⟩
    exact ⟨_, ⟨haccepted, rfl⟩, hinhabited, rfl⟩

/-! ## Lines for the open page -/

/-- What a line does to an assembly whose open page is known. -/
theorem feed_openPage_text_eq_ok {assembly' : Assembly}
    (hcurrent : assembly.current = some (body.openPage setting))
    (hfirst : body.TextFirst setting.files setting.base)
    (hmarked : Directive.isMarked line = false) :
    (feed setting (body.openedAt + 1 + body.lines.length) line assembly).outcome = .ok assembly' ↔
      body.postChecks setting.files setting.base = [] ∧
        (∀ fragment ∈ body.settledBy setting.options.groupCodeFences line,
          fragment.Accepted setting) ∧
        assembly' = { assembly with current := some ((body.concat line).openPage setting) } := by
  cases hblock : body.pending? setting.options.groupCodeFences with
  | none =>
    have hpending := openPage_pending_of_none hblock
    rw [feed_inside_text_eq_ok hcurrent hmarked hpending]
    simp only [feedText_openPage_eq_ok hmarked hblock]
    -- the page behind the line is determined, so what is left is to put the conditions together
    constructor
    · intro h
      rcases h with ⟨page', ⟨hchecks, haccepted, rfl⟩, rfl⟩
      exact ⟨hchecks, haccepted, rfl⟩
    · intro h
      rcases h with ⟨hchecks, haccepted, rfl⟩
      exact ⟨_, ⟨hchecks, haccepted, rfl⟩, rfl⟩
  | some block =>
    have hpending := openPage_pending_of_some hblock
    -- a block waits only where there is no check, so the guard holds
    have hchecks : body.postChecks setting.files setting.base = [] :=
      postChecks_eq_nil_of_pending? hfirst hblock
    rw [feed_inside_block_eq_ok hcurrent hmarked hpending]
    simp only [feedBlock_openPage_eq_ok hmarked hchecks hblock hpending]
    constructor
    · intro h
      rcases h with ⟨page', ⟨haccepted, rfl⟩, rfl⟩
      exact ⟨hchecks, haccepted, rfl⟩
    · intro h
      rcases h with ⟨-, haccepted, rfl⟩
      exact ⟨_, ⟨haccepted, rfl⟩, rfl⟩

/-- A directive line first ends the block that waits. -/
theorem feed_openPage_directive_eq_ok {number : Nat} {assembly' : Assembly}
    (hcurrent : assembly.current = some (body.openPage setting))
    (hfirst : body.TextFirst setting.files setting.base)
    (hmarked : Directive.isMarked line = true) :
    (feed setting number line assembly).outcome = .ok assembly' ↔
      (∀ fragment ∈ body.settledBy setting.options.groupCodeFences line,
        fragment.Accepted setting) ∧
      ∃ directive, directive? setting.files setting.base line = some directive ∧
        (apply setting number directive
          { assembly with
            current := some ⟨⟨body.openedAt, body.page setting⟩, .start, none⟩
            warnings := assembly.warnings ++
              ((body.pending? setting.options.groupCodeFences).toList.map
                (Block.warning setting.options)) }).outcome = .ok assembly' := by
  -- behind a directive line the block that waits is all that is settled
  have hsettled : (∀ fragment ∈ body.settledBy setting.options.groupCodeFences line,
        fragment.Accepted setting) ↔
      ∀ block, body.pending? setting.options.groupCodeFences = some block →
        (Fragment.block block).Accepted setting := by
    simp [settledBy_of_isMarked hmarked]
  rw [feed_inside_directive_eq_ok hcurrent hmarked, hsettled]
  simp only [flushFence_openPage_eq_ok hfirst, feedDirective_eq_ok, directive?_eq_some_iff hmarked]
  constructor
  · intro h
    rcases h with ⟨flushed, ⟨haccepted, rfl⟩, happly⟩
    exact ⟨haccepted, happly⟩
  · intro h
    rcases h with ⟨haccepted, happly⟩
    exact ⟨_, ⟨haccepted, rfl⟩, happly⟩

/-- The page behind a directive line holds all its fragments. -/
theorem openPage_concat_of_isMarked (hmarked : Directive.isMarked line = true) :
    (body.concat line).openPage setting =
      ⟨⟨body.openedAt, (body.concat line).pageWith setting
        (body.fragments setting.options.groupCodeFences)⟩, .start, none⟩ := by
  simp [openPage, settled_concat, settled_append_settledBy_of_isMarked hmarked,
    pending?_concat_of_isMarked hmarked, FenceTracker.start]

/-- A command is added to the page. -/
theorem apply_command_eq_ok {number : Nat} {directive : Directive} {assembly' : Assembly}
    (hdirective : directive? setting.files setting.base line = some directive)
    (hcommand : isPageMarker setting.files setting.base line = false)
    (hcurrent : assembly.current = some ⟨⟨body.openedAt, body.page setting⟩, .start, none⟩) :
    (apply setting number directive assembly).outcome = .ok assembly' ↔
      assembly' = { assembly with current := some ((body.concat line).openPage setting) } := by
  have hmarked := isMarked_of_directive?_eq_some hdirective
  -- the commands of the page with the line are those without it and the new one
  cases directive with
  | startPage => simp [isPageMarker, opensPage, hdirective] at hcommand
  | endPage => simp [isPageMarker, closesPage, hdirective] at hcommand
  | pre command =>
    rw [apply_pre_eq_ok hcurrent, openPage_concat_of_isMarked hmarked]
    simp [Draft.addPreCommand, page, pageWith, preCommands_concat, postChecks_concat, hdirective,
      Directive.preCommand?, Directive.postCheck?]
  | post check =>
    rw [apply_post_eq_ok hcurrent, openPage_concat_of_isMarked hmarked]
    simp [Draft.addPostCheck, page, pageWith, preCommands_concat, postChecks_concat, hdirective,
      Directive.preCommand?, Directive.postCheck?]

end PageBody

end TutorialPages
