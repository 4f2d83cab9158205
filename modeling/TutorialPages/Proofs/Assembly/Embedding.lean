import Mathlib.Data.List.Forall2
import TutorialPages.Proofs.Assembly.Success
import TutorialPages.Proofs.Layout.Reading
import TutorialPages.Proofs.Text.Base64

/-!
# What an assembly embeds

A line that has been taken leaves the assembly with what its reading gave: a command with the text
of a file, a page with the bytes of an image. Nothing else gets onto a page from the files. The
invariant is `Follows`: the assembly knows as much about the open page as its lines do.
-/

namespace TutorialPages

open Layout Traced

/-! ## What has been embedded -/

/-- The files that the commands of a page embed. -/
def Page.embeddedFiles (page : Page) : List EmbeddedFile :=
  page.preCommands.filterMap fun command => (Directive.pre command).file?

/-- The images of a page; none when the list is absent. -/
def Page.images (page : Page) : List Asset :=
  page.assets.getD []

/-- The command embeds the text that the source gives for the reading. -/
def EmbedsText (base : Path) (files : FileSource) (placed : PlacedRead) (file : EmbeddedFile) :
    Prop :=
  placed.path = Path.below base file.name ∧ files.readText placed.path = .ok file.value

/-- The image holds the one text from which base64 gives back the bytes that the source gives for
the reading. -/
def EmbedsBytes (base : Path) (files : FileSource) (placed : PlacedRead) (asset : Asset) : Prop :=
  placed.path = Path.below base asset.name ∧
    ∃ bytes, files.readBytes placed.path = .ok bytes ∧
      ∀ text, Base64.decode? text = some bytes ↔ text = asset.content

/-! ## What waits -/

/-- The fence that is open on a page, and whether a block waits for its end. -/
def OpenPage.waiting (page : OpenPage) : FenceTracker × Bool :=
  (page.tracker, page.pending.isSome)

/-- The fence and the block that wait behind the lines of a page. -/
def PageBody.waiting (grouped : Bool) (body : PageBody) : FenceTracker × Bool :=
  ((body.pending? grouped).map Block.fence, (body.pending? grouped).isSome)

/-- Where no block waits, the next line of text may begin one. -/
theorem PageBody.waiting_concat {grouped : Bool} {body : PageBody} {line : Text}
    (hmarked : Directive.isMarked line = false) (hnone : body.pending? grouped = none) :
    (body.concat line).waiting grouped =
      if Text.allBlank line || !grouped then (none, false)
      else (Fence.opener? line, (Fence.opener? line).isSome) := by
  rw [waiting, pending?_concat_of_not_isMarked hmarked, hnone]
  cases Text.allBlank line || !grouped with
  | true => rfl
  | false =>
    cases Fence.opener? line with
    | none => rfl
    | some fence => rfl

namespace Assembly

/-- The finished pages and the one that is open. -/
def allPages (assembly : Assembly) : List Page :=
  assembly.pages ++ (assembly.current.map fun page => page.draft.page).toList

/-- One assembly has these files and images more than the other. -/
structure Adds (assembly next : Assembly) (files : List EmbeddedFile) (images : List Asset) :
    Prop where
  files : next.allPages.flatMap Page.embeddedFiles =
    assembly.allPages.flatMap Page.embeddedFiles ++ files
  images : next.allPages.flatMap Page.images = assembly.allPages.flatMap Page.images ++ images

variable {setting : Setting} {number : Nat} {line : Text} {page page' : OpenPage}
  {assembly next : Assembly} {before : List Text}

/-! ## Following the lines -/

/-- The assembly is as far as the lines: a page is open where they leave one open, and on it waits
what waits behind them. -/
def Follows (setting : Setting) (before : List Text) (assembly : Assembly) : Prop :=
  assembly.current.map OpenPage.waiting =
    (openBody? setting.files setting.base 1 before).map
      (PageBody.waiting setting.options.groupCodeFences)

theorem start_follows (setting : Setting) : start.Follows setting [] := rfl

/-- How far lines have come is not a matter of files. -/
theorem follows_files (files : FileSource) :
    assembly.Follows { setting with files } before ↔ assembly.Follows setting before := by
  simp only [Follows, openBody?_files files setting.files]

theorem Follows.openBody?_of_none (h : assembly.Follows setting before)
    (hcurrent : assembly.current = none) :
    openBody? setting.files setting.base 1 before = none := by
  rw [Follows, hcurrent, Option.map_none] at h
  exact Option.map_eq_none_iff.mp h.symm

theorem Follows.openBody?_of_some (h : assembly.Follows setting before)
    (hcurrent : assembly.current = some page) :
    ∃ body, openBody? setting.files setting.base 1 before = some body ∧
      body.waiting setting.options.groupCodeFences = page.waiting := by
  rw [Follows, hcurrent, Option.map_some] at h
  exact Option.map_eq_some_iff.mp h.symm

/-- A page that is as far as its lines keeps a fence exactly while a block waits on it. -/
theorem isSome_tracker_of_waiting {grouped : Bool} {body : PageBody}
    (h : body.waiting grouped = page.waiting) : page.tracker.isSome = page.pending.isSome := by
  obtain ⟨htracker, hpending⟩ := Prod.mk.inj h
  rw [← htracker, ← hpending, Option.isSome_map]

theorem tracker_eq_none_of_waiting {grouped : Bool} {body : PageBody}
    (h : body.waiting grouped = page.waiting) (hpending : page.pending = none) :
    page.tracker = none := by
  have hsame := isSome_tracker_of_waiting h
  rwa [hpending, Option.isSome_none, Option.isSome_eq_false_iff, Option.isNone_iff_eq_none]
    at hsame

/-! ## What a line adds -/

theorem Adds.refl (assembly : Assembly) : Adds assembly assembly [] [] :=
  ⟨by simp, by simp⟩

theorem Adds.trans {last : Assembly} {files files' : List EmbeddedFile}
    {images images' : List Asset} (h : Adds assembly next files images)
    (h' : Adds next last files' images') :
    Adds assembly last (files ++ files') (images ++ images') :=
  ⟨by rw [h'.files, h.files, List.append_assoc], by rw [h'.images, h.images, List.append_assoc]⟩

/-- The assembly has taken up the answers to these readings and nothing else: the files and images
that it has more are embedded from them, in order. Each answer is that of the files as they were
when the reading was made. -/
def TakesUp (base : Path) (history : Nat → FileSource) (made : List PlacedRead)
    (assembly next : Assembly) : Prop :=
  ∃ files images, Adds assembly next files images ∧
    List.Forall₂ (fun placed => EmbedsText base (history placed.number) placed)
      (made.filter (·.mode = .text)) files ∧
    List.Forall₂ (fun placed => EmbedsBytes base (history placed.number) placed)
      (made.filter (·.mode = .bytes)) images

namespace TakesUp

variable {base : Path} {history : Nat → FileSource} {made later : List PlacedRead}

theorem of_adds_nil (h : Adds assembly next [] []) : TakesUp base history [] assembly next :=
  ⟨[], [], h, .nil, .nil⟩

/-- Only the files at the readings count. -/
theorem congr {history' : Nat → FileSource} (h : TakesUp base history made assembly next)
    (hsame : ∀ placed ∈ made, history placed.number = history' placed.number) :
    TakesUp base history' made assembly next := by
  obtain ⟨files, images, hadds, hfiles, himages⟩ := h
  refine ⟨files, images, hadds, ?_, ?_⟩
  · refine ((List.forall₂_and_left _ _).mpr ⟨fun placed hplaced =>
      hsame placed (List.mem_of_mem_filter hplaced), hfiles⟩).imp ?_
    rintro placed file ⟨hplaced, hembeds⟩
    rwa [← hplaced]
  · refine ((List.forall₂_and_left _ _).mpr ⟨fun placed hplaced =>
      hsame placed (List.mem_of_mem_filter hplaced), himages⟩).imp ?_
    rintro placed asset ⟨hplaced, hembeds⟩
    rwa [← hplaced]

theorem trans {last : Assembly} (h : TakesUp base history made assembly next)
    (h' : TakesUp base history later next last) :
    TakesUp base history (made ++ later) assembly last := by
  obtain ⟨files, images, hadds, hfiles, himages⟩ := h
  obtain ⟨files', images', hadds', hfiles', himages'⟩ := h'
  refine ⟨files ++ files', images ++ images', hadds.trans hadds', ?_, ?_⟩
  · rw [List.filter_append]
    exact List.rel_append hfiles hfiles'
  · rw [List.filter_append]
    exact List.rel_append himages himages'

end TakesUp

/-- What a directive embeds is the answer to the reading of its line. -/
theorem takesUp_of_read {directive : Directive} (hmarked : Directive.isMarked line = true)
    (hread : (Directive.read setting.files setting.base line).outcome = .ok directive)
    (hadds : Adds assembly next directive.file?.toList []) :
    TakesUp setting.base (fun _ => setting.files) (lineRead? setting before line).toList
      assembly next := by
  have hfile := Directive.file?_of_read_eq_ok hread
  rw [lineRead?_of_isMarked hmarked]
  cases hname : Directive.embeddedName? line with
  | none =>
    -- a line that names no file adds none
    simp only [hname] at hfile
    rw [hfile] at hadds
    exact .of_adds_nil hadds
  | some name =>
    -- the command holds the answer to the one reading of its line
    simp only [hname] at hfile
    obtain ⟨value, hfile, hvalue⟩ := hfile
    rw [hfile] at hadds
    exact ⟨_, _, hadds, .cons ⟨rfl, hvalue⟩ .nil, .nil⟩

/-- What is true once a line has been taken: the assembly is one line further, it has taken up what
was read for the line, and an image that the line embeds had a name. -/
structure Taken (setting : Setting) (before : List Text) (line : Text)
    (assembly next : Assembly) : Prop where
  follows : next.Follows setting (before ++ [line])
  takesUp : TakesUp setting.base (fun _ => setting.files) (lineRead? setting before line).toList
    assembly next
  named : embedsImage setting before line = true → (Image.fileName? line).isSome = true

section Outside

variable (hfollows : assembly.Follows setting before) (hcurrent : assembly.current = none)

include hfollows hcurrent

theorem taken_outside (h : (feed setting number line assembly).outcome = .ok next) :
    Taken setting before line assembly next := by
  have hopen := hfollows.openBody?_of_none hcurrent
  have hembeds : embedsImage setting before line = false := embedsImage_outside hopen
  have hnamed : embedsImage setting before line = true →
      (Image.fileName? line).isSome = true := by simp [hembeds]
  cases hmarked : Directive.isMarked line with
  | true =>
    -- only `START PAGE` can be carried out, and it names no file
    rw [feed_outside_directive hcurrent hmarked, feedDirective_eq_ok] at h
    obtain ⟨directive, hdirective, happly⟩ := h
    obtain ⟨rfl, rfl⟩ := (apply_outside_eq_ok hcurrent).mp happly
    have hopens := opensPage_iff.mpr ((directive?_eq_some_iff hmarked).mpr hdirective)
    refine ⟨?_, takesUp_of_read hmarked hdirective ⟨?_, ?_⟩, hnamed⟩
    · simp [Follows, openBody?_concat_of_opensPage hopens, PageBody.waiting, OpenPage.waiting,
        OpenPage.start, FenceTracker.start]
    · simp [allPages, hcurrent, OpenPage.start, Draft.start, Page.blank, Page.embeddedFiles,
        Directive.file?]
    · simp [allPages, hcurrent, OpenPage.start, Draft.start, Page.blank, Page.images]
  | false =>
    -- text outside of any page is left out, so nothing is added
    have hmarker := isPageMarker_of_not_isMarked setting.files setting.base hmarked
    rw [feed_outside_text hcurrent hmarked, skip_eq_ok] at h
    subst h
    refine ⟨?_, ?_, hnamed⟩
    · simp [Follows, openBody?_concat_of_not_marker hmarker, hopen, hcurrent]
    · rw [lineRead?_of_not_embedsImage hmarked hembeds]
      exact .of_adds_nil ⟨by simp [allPages], by simp [allPages]⟩

end Outside

section Inside

/-- Ending the block that waits leaves the page without one, and with another text. -/
theorem exists_text_of_flushFence_eq_ok {flushed : OpenPage × Assembly}
    (hwaiting : page.tracker.isSome = page.pending.isSome)
    (h : (flushFence setting page assembly).outcome = .ok flushed) :
    ∃ text warnings, flushed = (⟨{ page.draft with page.text := text }, none, none⟩,
      { assembly with warnings }) := by
  cases hpending : page.pending with
  | none =>
    -- no block waits, so no fence is open either and the page stays as it is
    rw [flushFence_of_none hpending, outcome_pure_eq_ok] at h
    rw [hpending, Option.isSome_none, Option.isSome_eq_false_iff, Option.isNone_iff_eq_none]
      at hwaiting
    obtain ⟨draft, tracker, pending⟩ := page
    simp only at hpending hwaiting
    subst hpending hwaiting h
    exact ⟨draft.page.text, assembly.warnings, rfl⟩
  | some pending =>
    -- the block has become text, and the next line is looked at afresh
    obtain ⟨html, -, -, rfl⟩ := (flushFence_of_some hpending).mp h
    exact ⟨_, _, rfl⟩

/-- A directive on a page without a block adds the file that it embeds, and no image. -/
theorem adds_of_apply_eq_ok {directive : Directive} (hcurrent : assembly.current = some page)
    (hpending : page.pending = none)
    (h : (apply setting number directive assembly).outcome = .ok next) :
    Adds assembly next directive.file?.toList [] := by
  cases directive with
  | startPage =>
    -- the page is finished with all that it embeds, and the next one is blank
    obtain ⟨-, rfl⟩ := (apply_startPage_eq_ok hcurrent hpending).mp h
    refine ⟨?_, ?_⟩
    · simp [allPages, hcurrent, OpenPage.start, Draft.start, Page.blank, Page.embeddedFiles,
        Directive.file?]
    · simp [allPages, hcurrent, OpenPage.start, Draft.start, Page.blank, Page.images]
  | endPage =>
    -- the open page is now the last of the finished ones, so all pages are as before
    obtain ⟨-, rfl⟩ := (apply_endPage_eq_ok hcurrent hpending).mp h
    exact ⟨by simp [allPages, hcurrent, Directive.file?], by simp [allPages, hcurrent]⟩
  | pre command =>
    obtain rfl := (apply_pre_eq_ok hcurrent).mp h
    refine ⟨?_, ?_⟩
    · cases hfile : (Directive.pre command).file? with
      | none => simp [allPages, hcurrent, Draft.addPreCommand, Page.embeddedFiles, hfile]
      | some file => simp [allPages, hcurrent, Draft.addPreCommand, Page.embeddedFiles, hfile]
    · simp [allPages, hcurrent, Draft.addPreCommand, Page.images]
  | post check =>
    obtain rfl := (apply_post_eq_ok hcurrent).mp h
    refine ⟨?_, ?_⟩
    · simp [allPages, hcurrent, Draft.addPostCheck, Page.embeddedFiles, Directive.file?]
    · simp [allPages, hcurrent, Draft.addPostCheck, Page.images]

/-- A directive on a page without a block leaves the page that its line leaves open. -/
theorem follows_of_apply_eq_ok {directive : Directive} {body : PageBody}
    (hopen : openBody? setting.files setting.base 1 before = some body)
    (hcurrent : assembly.current = some page) (hwaiting : page.waiting = (none, false))
    (hdirective : directive? setting.files setting.base line = some directive)
    (h : (apply setting number directive assembly).outcome = .ok next) :
    next.Follows setting (before ++ [line]) := by
  have hmarked := isMarked_of_directive?_eq_some hdirective
  have hpending : page.pending = none := by
    simpa [OpenPage.waiting] using (Prod.mk.inj hwaiting).2
  -- behind a directive line no block waits
  have hcommand : isPageMarker setting.files setting.base line = false →
      next.current.map OpenPage.waiting = some (none, false) →
      next.Follows setting (before ++ [line]) := by
    intro hmarker hnext
    simp [Follows, openBody?_concat_of_not_marker hmarker, hopen, hnext, PageBody.waiting,
      PageBody.pending?_concat_of_isMarked hmarked]
  cases directive with
  | startPage =>
    -- on a page that has just been opened nothing waits
    obtain ⟨-, rfl⟩ := (apply_startPage_eq_ok hcurrent hpending).mp h
    simp [Follows, openBody?_concat_of_opensPage (opensPage_iff.mpr hdirective),
      PageBody.waiting, OpenPage.waiting, OpenPage.start, FenceTracker.start]
  | endPage =>
    obtain ⟨-, rfl⟩ := (apply_endPage_eq_ok hcurrent hpending).mp h
    simp [Follows, openBody?_concat_of_closesPage (closesPage_iff.mpr hdirective)]
  | pre command =>
    obtain rfl := (apply_pre_eq_ok hcurrent).mp h
    refine hcommand (by simp [isPageMarker, opensPage, closesPage, hdirective]) ?_
    exact congrArg some hwaiting
  | post check =>
    obtain rfl := (apply_post_eq_ok hcurrent).mp h
    refine hcommand (by simp [isPageMarker, opensPage, closesPage, hdirective]) ?_
    exact congrArg some hwaiting

/-- Rendering changes the text of a page, so it adds neither file nor image. -/
theorem adds_of_text {text : Text} (hcurrent : assembly.current = some page)
    (tracker : FenceTracker) (pending : Option PendingFence) (warnings : List Warning) :
    Adds assembly { assembly with
      current := some ⟨{ page.draft with page.text := text }, tracker, pending⟩, warnings } [] [] :=
  ⟨by simp [allPages, hcurrent, Page.embeddedFiles], by simp [allPages, hcurrent, Page.images]⟩

/-- A line that is rendered by itself adds the image that it refers to, if it refers to one. -/
theorem adds_of_addLine_eq_ok (hcurrent : assembly.current = some page)
    (h : (addLine setting number line page).outcome = .ok page') :
    page'.waiting = page.waiting ∧
      if Image.isReference line then
        ∃ asset, (Image.embed setting.files setting.base line).outcome = .ok asset ∧
          Adds assembly { assembly with current := some page' } [] [asset]
      else Adds assembly { assembly with current := some page' } [] [] := by
  -- embedding comes first and adds the image; rendering only adds to the text
  obtain ⟨middle, hmiddle, hrendered⟩ := addLine_eq_ok.mp h
  obtain ⟨html, -, -, rfl⟩ := addRendered_eq_ok.mp hrendered
  have hembedded := embedImage_eq_ok.mp hmiddle
  split at hembedded
  · next hreference =>
    obtain ⟨asset, hasset, rfl⟩ := hembedded
    rw [if_pos hreference]
    refine ⟨rfl, asset, hasset, ?_, ?_⟩
    · simp [allPages, hcurrent, Draft.addAsset, Page.embeddedFiles]
    · simp [allPages, hcurrent, Draft.addAsset, Page.images]
  · next hreference =>
    subst hembedded
    rw [if_neg hreference]
    exact ⟨rfl, adds_of_text hcurrent _ _ _⟩

variable {body : PageBody} (hopen : openBody? setting.files setting.base 1 before = some body)

include hopen

/-- Text is taken by the page that is open before it. -/
theorem follows_of_text (hmarked : Directive.isMarked line = false)
    (hwaiting : page'.waiting = (body.concat line).waiting setting.options.groupCodeFences) :
    Follows setting (before ++ [line]) { assembly with current := some page' } := by
  have hmarker := isPageMarker_of_not_isMarked setting.files setting.base hmarked
  rw [Follows, openBody?_concat_of_not_marker hmarker, hopen]
  exact congrArg some hwaiting

variable (hcurrent : assembly.current = some page)
  (hwaiting : body.waiting setting.options.groupCodeFences = page.waiting)

include hcurrent hwaiting

theorem taken_inside_directive (hmarked : Directive.isMarked line = true)
    (h : (feed setting number line assembly).outcome = .ok next) :
    Taken setting before line assembly next := by
  -- the block that waits is ended first, which reads nothing and adds no file
  obtain ⟨flushed, hflushed, hline⟩ := (feed_inside_directive_eq_ok hcurrent hmarked).mp h
  obtain ⟨text, warnings, rfl⟩ :=
    exists_text_of_flushFence_eq_ok (isSome_tracker_of_waiting hwaiting) hflushed
  obtain ⟨directive, hread, happly⟩ := feedDirective_eq_ok.mp hline
  have hdirective := (directive?_eq_some_iff hmarked).mpr hread
  have hadds :=
    (adds_of_text hcurrent none none warnings).trans (adds_of_apply_eq_ok rfl rfl happly)
  refine ⟨follows_of_apply_eq_ok hopen rfl rfl hdirective happly, ?_, ?_⟩
  · exact takesUp_of_read hmarked hread hadds
  · simp [embedsImage, hmarked]

/-- A line inside a block that waits is kept for its end. -/
theorem taken_inside_block {pending : PendingFence} (hmarked : Directive.isMarked line = false)
    (hpending : page.pending = some pending)
    (h : (feed setting number line assembly).outcome = .ok next) :
    Taken setting before line assembly next := by
  -- the block that waits on the page is the one that waits behind its lines
  obtain ⟨htracker, hwaits⟩ := Prod.mk.inj hwaiting
  rw [hpending, Option.isSome_some, Option.isSome_iff_exists] at hwaits
  obtain ⟨block, hblock⟩ := hwaits
  rw [hblock, Option.map_some] at htracker
  have hembeds : embedsImage setting before line = false := by
    simp [embedsImage_inside hmarked hopen, standsAlone, hblock]
  have hbehind : (body.concat line).pending? setting.options.groupCodeFences =
      if block.fence.closes line then none else some (block.concat line) := by
    rw [PageBody.pending?_concat_of_not_isMarked hmarked, hblock]
  obtain ⟨page', hpage', rfl⟩ := (feed_inside_block_eq_ok hcurrent hmarked hpending).mp h
  rw [feedBlock_eq htracker.symm] at hpage'
  -- the block is complete and rendered as a whole, or it goes on
  split at hpage'
  · next hcloses =>
    obtain ⟨html, -, -, rfl⟩ := addRendered_eq_ok.mp hpage'
    refine ⟨follows_of_text hopen hmarked ?_, ?_, by simp [hembeds]⟩
    · simp [OpenPage.waiting, PageBody.waiting, hbehind, hcloses]
    · rw [lineRead?_of_not_embedsImage hmarked hembeds]
      exact .of_adds_nil (adds_of_text hcurrent none none _)
  · next hcloses =>
    obtain rfl := outcome_pure_eq_ok.mp hpage'
    refine ⟨follows_of_text hopen hmarked ?_, ?_, by simp [hembeds]⟩
    · simp [OpenPage.waiting, PageBody.waiting, hbehind, hcloses, ← htracker, Block.concat]
    · rw [lineRead?_of_not_embedsImage hmarked hembeds]
      exact .of_adds_nil (adds_of_text hcurrent _ _ _)

section NoBlock

variable (hmarked : Directive.isMarked line = false) (hpending : page.pending = none)

include hmarked hpending

omit hopen hcurrent hmarked in
theorem pending?_eq_none : body.pending? setting.options.groupCodeFences = none := by
  have hwaits := (Prod.mk.inj hwaiting).2
  rwa [hpending, Option.isSome_none, Option.isSome_eq_false_iff, Option.isNone_iff_eq_none]
    at hwaits

omit hcurrent in
theorem embedsImage_eq : embedsImage setting before line = (Image.isReference line &&
    !(setting.options.groupCodeFences && (Fence.opener? line).isSome)) := by
  rw [embedsImage_inside hmarked hopen, standsAlone, pending?_eq_none hwaiting hpending,
    Option.isNone_none, Bool.true_and]

theorem taken_blank (hblank : Text.allBlank line = true) :
    Taken setting before line assembly { assembly with current := some page } := by
  have hnone := pending?_eq_none hwaiting hpending
  -- a blank line refers to no image
  have hembeds := embedsImage_eq hopen hwaiting hmarked hpending
  rw [isReference_of_allBlank hblank, Bool.false_and] at hembeds
  refine ⟨follows_of_text hopen hmarked ?_, ?_, by simp [hembeds]⟩
  · rw [PageBody.waiting_concat hmarked hnone, ← hwaiting, PageBody.waiting, hnone, hblank]
    rfl
  · rw [lineRead?_of_not_embedsImage hmarked hembeds]
    exact .of_adds_nil (adds_of_text hcurrent _ _ _)

/-- A line that begins a block waits, and an image that it refers to is never embedded. -/
theorem taken_opener {fence : Fence} (number : Nat) (hblank : Text.allBlank line = false)
    (hopener :
      (if setting.options.groupCodeFences then Fence.opener? line else none) = some fence) :
    Taken setting before line assembly { assembly with
      current := some { page with
        tracker := some fence, pending := some ⟨number, fence.marker, line⟩ } } := by
  -- with grouping the reference is part of the block that the line begins
  obtain ⟨hgrouped, hfence⟩ : setting.options.groupCodeFences = true ∧
      Fence.opener? line = some fence := by
    simpa using hopener
  have hembeds := embedsImage_eq hopen hwaiting hmarked hpending
  rw [hgrouped, hfence, Option.isSome_some, Bool.and_self, Bool.not_true, Bool.and_false] at hembeds
  refine ⟨follows_of_text hopen hmarked ?_, ?_, by simp [hembeds]⟩
  · rw [PageBody.waiting_concat hmarked (pending?_eq_none hwaiting hpending), hgrouped, hblank,
      hfence]
    rfl
  · rw [lineRead?_of_not_embedsImage hmarked hembeds]
    exact .of_adds_nil (adds_of_text hcurrent _ _ _)

theorem taken_line (hopener : (if setting.options.groupCodeFences then Fence.opener? line
      else none) = none) (h : (addLine setting number line page).outcome = .ok page') :
    Taken setting before line assembly { assembly with current := some page' } := by
  have hnone := pending?_eq_none hwaiting hpending
  obtain ⟨hsame, hadds⟩ := adds_of_addLine_eq_ok hcurrent h
  -- the line begins no block, so its image is embedded wherever it refers to one
  have hnoFence : setting.options.groupCodeFences = false ∨ Fence.opener? line = none := by
    simpa [or_iff_not_imp_left] using hopener
  have hembeds : embedsImage setting before line = Image.isReference line := by
    rw [embedsImage_eq hopen hwaiting hmarked hpending]
    rcases hnoFence with hplain | hplain <;> simp [hplain]
  have hfollows : Follows setting (before ++ [line]) { assembly with current := some page' } := by
    refine follows_of_text hopen hmarked (hsame.trans ?_)
    rw [PageBody.waiting_concat hmarked hnone, ← hwaiting, PageBody.waiting, hnone]
    rcases hnoFence with hplain | hplain <;> simp [hplain]
  cases hreference : Image.isReference line with
  | true =>
    -- the image is put on the page before the line is rendered
    rw [hreference, if_pos rfl] at hadds
    obtain ⟨asset, hasset, hadds⟩ := hadds
    obtain ⟨name, bytes, hname, hbytes, rfl⟩ := Image.embed_eq_ok.mp hasset
    refine ⟨hfollows, ?_, by simp [hname]⟩
    rw [lineRead?, hmarked, if_neg Bool.false_ne_true, hembeds, if_pos hreference, hname]
    exact ⟨_, _, hadds, .nil, .cons ⟨rfl, bytes, hbytes, fun _ => Base64.decode?_eq_some_iff⟩ .nil⟩
  | false =>
    rw [hreference, if_neg Bool.false_ne_true] at hadds
    rw [hreference] at hembeds
    refine ⟨hfollows, ?_, by simp [hembeds]⟩
    rw [lineRead?_of_not_embedsImage hmarked hembeds]
    exact .of_adds_nil hadds

/-- A line of text by itself is blank, begins a block, or is rendered. -/
theorem taken_inside_text (h : (feed setting number line assembly).outcome = .ok next) :
    Taken setting before line assembly next := by
  have htracker := tracker_eq_none_of_waiting hwaiting hpending
  obtain ⟨page', hpage', rfl⟩ := (feed_inside_text_eq_ok hcurrent hmarked hpending).mp h
  -- the tests of the line come in the order in which it is judged
  rw [feedText_eq htracker] at hpage'
  cases haccepts : page.draft.acceptsText with
  | false =>
    -- behind a check the line is refused, so this case does not arise
    rw [if_pos haccepts] at hpage'
    cases hpage'
  | true =>
    simp only [haccepts, Bool.true_eq_false, ↓reduceIte] at hpage'
    cases hblank : Text.allBlank line with
    | true =>
      rw [if_pos hblank] at hpage'
      obtain rfl := outcome_pure_eq_ok.mp hpage'
      exact taken_blank hopen hcurrent hwaiting hmarked hpending hblank
    | false =>
      rw [hblank, if_neg Bool.false_ne_true] at hpage'
      split at hpage'
      · next fence hopener =>
        obtain rfl := outcome_pure_eq_ok.mp hpage'
        exact taken_opener hopen hcurrent hwaiting hmarked hpending number hblank hopener
      · next hopener =>
        exact taken_line hopen hcurrent hwaiting hmarked hpending hopener hpage'

end NoBlock

end Inside

/-- A line that is taken brings the assembly one line further. -/
theorem taken_of_feed_eq_ok (hfollows : assembly.Follows setting before)
    (h : (feed setting number line assembly).outcome = .ok next) :
    Taken setting before line assembly next := by
  cases hcurrent : assembly.current with
  | none => exact taken_outside hfollows hcurrent h
  | some page =>
    obtain ⟨body, hopen, hwaiting⟩ := hfollows.openBody?_of_some hcurrent
    cases hmarked : Directive.isMarked line with
    | true => exact taken_inside_directive hopen hcurrent hwaiting hmarked h
    | false =>
      cases hpending : page.pending with
      | none => exact taken_inside_text hopen hcurrent hwaiting hmarked hpending h
      | some pending => exact taken_inside_block hopen hcurrent hwaiting hmarked hpending h

/-! ## The end of a document -/

/-- The page that is open at the end is closed with what it embeds. -/
theorem embedded_of_finish_eq_ok {lines : List Text} {compiled : Compiled}
    (hfollows : assembly.Follows setting before)
    (h : (finish setting lines assembly).outcome = .ok compiled) :
    compiled.document.pages.flatMap Page.embeddedFiles =
        assembly.allPages.flatMap Page.embeddedFiles ∧
      compiled.document.pages.flatMap Page.images = assembly.allPages.flatMap Page.images := by
  cases hcurrent : assembly.current with
  | none =>
    rw [finish_of_none hcurrent] at h
    obtain rfl := outcome_pure_eq_ok.mp h
    simp [allPages, hcurrent]
  | some page =>
    -- ending the last block changes the text of its page alone
    obtain ⟨closed, hclosed, rfl⟩ := (finish_of_some hcurrent).mp h
    obtain ⟨-, hclosed⟩ := closeLast_eq_ok.mp hclosed
    obtain ⟨flushed, hflushed, -, rfl⟩ := closePage_eq_ok.mp hclosed
    obtain ⟨body, -, hwaiting⟩ := hfollows.openBody?_of_some hcurrent
    obtain ⟨text, warnings, rfl⟩ :=
      exists_text_of_flushFence_eq_ok (isSome_tracker_of_waiting hwaiting) hflushed
    simp [allPages, hcurrent, Page.embeddedFiles, Page.images]

end Assembly

end TutorialPages
