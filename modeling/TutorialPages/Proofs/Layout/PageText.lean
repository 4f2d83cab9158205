import TutorialPages.Assembly.Step
import TutorialPages.Proofs.Layout.Fragment
import TutorialPages.Proofs.Page.Draft

/-!
# What a page holds

The lines of a page determine the finished page: its directive lines give the commands and checks,
the fragments of its runs of text give the body and the images.

A page that is not complete has fragments that are *settled* and, at its end, possibly a block that
waits for its closing fence. The laws named `_concat` say what one more line adds to each of them.
-/

namespace TutorialPages

/-! ## Fragments on a page -/

namespace Fragment

/-- The HTML of a fragment that the renderer accepts. -/
def html (setting : Setting) (fragment : Fragment) : Text :=
  match setting.renderer fragment.source with
  | .ok html => html
  | .error _ => []

/-- The image that a single line refers to. Lines inside a block are not looked at. -/
def asset? (files : FileSource) (base : Path) : Fragment → Option Asset
  | .line text =>
    if Image.isReference text then (Image.embed files base text).outcome.toOption else none
  | .block _ => none

/-- A fragment can be put on a page: the image that it refers to can be embedded and the renderer
accepts it. -/
structure Accepted (setting : Setting) (fragment : Fragment) : Prop where
  embedded : ∀ text, fragment = .line text → Image.isReference text = true →
    ∃ asset, (Image.embed setting.files setting.base text).outcome = .ok asset
  rendered : ∃ html, setting.renderer fragment.source = .ok html

theorem html_of_ok {setting : Setting} {fragment : Fragment} {html : Text}
    (h : setting.renderer fragment.source = .ok html) : fragment.html setting = html := by
  simp [Fragment.html, h]

end Fragment

namespace Layout

/-- A list that ends with an element of its last part is split like the list before it. -/
theorem splitOnP_concat_of_neg {α : Type} (p : α → Bool) (last : α) (h : p last = false)
    (xs : List α) :
    ∃ earlier final, xs.splitOnP p = earlier ++ [final] ∧
      (xs ++ [last]).splitOnP p = earlier ++ [final ++ [last]] := by
  induction xs with
  | nil => exact ⟨[], [], rfl, by simp [List.splitOnP_cons_eq_if_modifyHead, h]⟩
  | cons x xs ih =>
    obtain ⟨earlier, final, hsplit, hconcat⟩ := ih
    -- a separator starts a new first part, any other element joins the first part there is
    cases hx : p x with
    | true =>
      refine ⟨[] :: earlier, final, ?_, ?_⟩
      · simp [List.splitOnP_cons_eq_if_modifyHead, hx, hsplit]
      · simp [List.splitOnP_cons_eq_if_modifyHead, hx, hconcat]
    | false =>
      -- the first part is the last one when there is no other
      cases earlier with
      | nil =>
        refine ⟨[], x :: final, ?_, ?_⟩
        · simp [List.splitOnP_cons_eq_if_modifyHead, hx, hsplit]
        · simp [List.splitOnP_cons_eq_if_modifyHead, hx, hconcat]
      | cons first earlier =>
        refine ⟨(x :: first) :: earlier, final, ?_, ?_⟩
        · simp [List.splitOnP_cons_eq_if_modifyHead, hx, hsplit]
        · simp [List.splitOnP_cons_eq_if_modifyHead, hx, hconcat]

/-- Splitting loses nothing but the separators. -/
theorem flatten_splitOnP {α : Type} (p : α → Bool) (xs : List α) :
    (xs.splitOnP p).flatten = xs.filter (!p ·) := by
  induction xs with
  | nil => simp
  | cons x xs ih =>
    rw [List.splitOnP_cons_eq_if_modifyHead]
    cases hx : p x with
    | true => simp [hx, ih]
    | false =>
      rcases List.exists_cons_of_ne_nil (List.splitOnP_ne_nil p xs) with ⟨run, runs, hruns⟩
      rw [hruns] at ih ⊢
      simp [hx, ← ih]

end Layout

namespace PageBody

open Layout

/-! ## The runs of text of a page -/

/-- The lines of a page with their numbers. -/
def numbered (body : PageBody) : List NumberedLine :=
  body.lines.zipIdx (body.openedAt + 1)

/-- The runs of text lines before, between and behind the directive lines of a page. -/
def textRuns (body : PageBody) : List (List NumberedLine) :=
  body.numbered.splitOnP fun line => Directive.isMarked line.1

/-- The lines of text of a page, blank or not. -/
def textLines (body : PageBody) : List Text :=
  body.lines.filter (!Directive.isMarked ·)

/-- The fragments of a page. -/
def fragments (grouped : Bool) (body : PageBody) : List Fragment :=
  body.textRuns.flatMap fun run => (cutRun grouped run).fragments

/-- The blocks of a page that have no closing fence. -/
def unclosedBlocks (grouped : Bool) (body : PageBody) : List Block :=
  body.textRuns.filterMap fun run => (cutRun grouped run).unclosed

/-- The runs that no further line changes. -/
def earlierRuns (body : PageBody) : List (List NumberedLine) :=
  body.textRuns.dropLast

/-- The run that the next line of text belongs to. -/
def lastRun (body : PageBody) : List NumberedLine :=
  body.textRuns.getLastD []

/-- The fragments that no further line changes. -/
def settled (grouped : Bool) (body : PageBody) : List Fragment :=
  (body.earlierRuns.flatMap fun run => (cutRun grouped run).fragments) ++
    (cutRun grouped body.lastRun).settled

/-- The blocks without a closing fence that no further line changes. -/
def flushedBlocks (grouped : Bool) (body : PageBody) : List Block :=
  body.earlierRuns.filterMap fun run => (cutRun grouped run).unclosed

/-- The block that the next line of text belongs to. -/
def pending? (grouped : Bool) (body : PageBody) : Option Block :=
  (cutRun grouped body.lastRun).unclosed

/-- The fragments that a further line settles: a directive line ends the block before it, a line of
text may end it, or be a fragment by itself. -/
def settledBy (grouped : Bool) (body : PageBody) (line : Text) : List Fragment :=
  match body.pending? grouped with
  | some block =>
    if Directive.isMarked line then [.block block]
    else if block.fence.closes line then [.block (block.concat line)]
    else []
  | none =>
    if Directive.isMarked line || Text.allBlank line ||
        (grouped && (Fence.opener? line).isSome) then []
    else [.line line]

/-! ## One more line -/

theorem numbered_concat (body : PageBody) (line : Text) :
    (body.concat line).numbered =
      body.numbered ++ [(line, body.openedAt + 1 + body.lines.length)] := by
  simp [numbered, concat, List.zipIdx_append]

theorem textRuns_eq (body : PageBody) : body.textRuns = body.earlierRuns ++ [body.lastRun] := by
  have hne : body.textRuns ≠ [] := List.splitOnP_ne_nil _ _
  rw [earlierRuns, lastRun, List.getLastD_eq_getLast?, List.getLast?_eq_some_getLast hne,
    Option.getD_some, List.dropLast_concat_getLast]

/-- The runs of a page together hold its lines of text. -/
theorem flatten_textRuns (body : PageBody) :
    body.textRuns.flatten.map Prod.fst = body.textLines := by
  have hlines : body.numbered.map Prod.fst = body.lines := List.zipIdx_map_fst _ _
  rw [textRuns, flatten_splitOnP, textLines, ← hlines, List.filter_map]
  rfl

/-- The fragments of a page are the settled ones and the block that is not closed yet. -/
theorem fragments_eq (grouped : Bool) (body : PageBody) :
    body.fragments grouped =
      body.settled grouped ++ (body.pending? grouped).toList.map .block := by
  simp [fragments, textRuns_eq, settled, pending?, Cut.fragments]

/-- The unclosed blocks of a page are those that have been flushed and the one at the end. -/
theorem unclosedBlocks_eq (grouped : Bool) (body : PageBody) :
    body.unclosedBlocks grouped =
      body.flushedBlocks grouped ++ (body.pending? grouped).toList := by
  rw [unclosedBlocks, textRuns_eq, List.filterMap_append]
  cases h : (cutRun grouped body.lastRun).unclosed with
  | none => simp [flushedBlocks, pending?, h]
  | some block => simp [flushedBlocks, pending?, h]

section Start

variable (grouped : Bool) (number : Nat)

theorem runs_start :
    (PageBody.mk number []).earlierRuns = [] ∧ (PageBody.mk number []).lastRun = [] := by
  simp [earlierRuns, lastRun, textRuns, numbered]

/-- A page begins without fragments. -/
@[simp]
theorem settled_start : (PageBody.mk number []).settled grouped = [] := by
  simp [settled, runs_start]

@[simp]
theorem flushedBlocks_start : (PageBody.mk number []).flushedBlocks grouped = [] := by
  simp [flushedBlocks, runs_start]

@[simp]
theorem pending?_start : (PageBody.mk number []).pending? grouped = none := by
  simp [pending?, runs_start]

end Start

section Concat

variable {grouped : Bool} {body : PageBody} {line : Text}

/-- A directive line ends the last run. -/
theorem runs_concat_of_isMarked (body : PageBody) (h : Directive.isMarked line = true) :
    (body.concat line).earlierRuns = body.textRuns ∧ (body.concat line).lastRun = [] := by
  have hruns : (body.concat line).textRuns = body.textRuns ++ [[]] := by
    rw [textRuns, numbered_concat]
    exact List.splitOnP_append_cons (p := fun line : NumberedLine => Directive.isMarked line.1)
      body.numbered [] h
  simp [earlierRuns, lastRun, hruns]

/-- A line of text is added to the last run. -/
theorem runs_concat_of_not_isMarked (body : PageBody) (h : Directive.isMarked line = false) :
    (body.concat line).earlierRuns = body.earlierRuns ∧
      (body.concat line).lastRun =
        body.lastRun ++ [(line, body.openedAt + 1 + body.lines.length)] := by
  obtain ⟨earlier, final, hsplit, hconcat⟩ := splitOnP_concat_of_neg
    (fun line : NumberedLine => Directive.isMarked line.1)
    (line, body.openedAt + 1 + body.lines.length) h body.numbered
  rw [← numbered_concat] at hconcat
  simp [earlierRuns, lastRun, textRuns, hsplit, hconcat]

/-- Behind a directive line no block waits. -/
theorem pending?_concat_of_isMarked (h : Directive.isMarked line = true) :
    (body.concat line).pending? grouped = none := by
  simp [pending?, (runs_concat_of_isMarked body h).2]

theorem flushedBlocks_concat_of_isMarked (h : Directive.isMarked line = true) :
    (body.concat line).flushedBlocks grouped = body.unclosedBlocks grouped := by
  simp [flushedBlocks, unclosedBlocks, (runs_concat_of_isMarked body h).1]

theorem flushedBlocks_concat_of_not_isMarked (h : Directive.isMarked line = false) :
    (body.concat line).flushedBlocks grouped = body.flushedBlocks grouped := by
  simp [flushedBlocks, (runs_concat_of_not_isMarked body h).1]

theorem cutRun_lastRun_concat (h : Directive.isMarked line = false) :
    cutRun grouped (body.concat line).lastRun =
      (cutRun grouped body.lastRun).concat grouped
        (line, body.openedAt + 1 + body.lines.length) := by
  rw [(runs_concat_of_not_isMarked body h).2, cutRun_concat]

/-- The block that is open behind a line of text. -/
theorem pending?_concat_of_not_isMarked (h : Directive.isMarked line = false) :
    (body.concat line).pending? grouped =
      match body.pending? grouped with
      | some block => if block.fence.closes line then none else some (block.concat line)
      | none =>
        if Text.allBlank line || !grouped then none
        else (Fence.opener? line).map fun fence =>
          ⟨body.openedAt + 1 + body.lines.length, fence, line, []⟩ := by
  rw [pending?, cutRun_lastRun_concat h, Cut.concat, pending?]
  cases hunclosed : (cutRun grouped body.lastRun).unclosed with
  | some block =>
    -- the line closes the block, or belongs to it
    cases hcloses : block.fence.closes line with
    | true => simp [hcloses]
    | false => simp [hcloses]
  | none =>
    -- where no block waits, only a visible line that opens a fence begins one
    cases Text.allBlank line with
    | true => simp [hunclosed]
    | false =>
      cases grouped with
      | false => simp
      | true =>
        cases Fence.opener? line with
        | none => simp
        | some fence => simp

/-- Where blocks are not grouped, none ever waits. -/
theorem pending?_of_not_grouped (body : PageBody) : body.pending? false = none := rfl

/-- The lines of the block that waits are the last lines of the page, and all of them are text. -/
theorem lines_of_pending? {block : Block} (h : body.pending? grouped = some block) :
    ∃ earlier, body.lines = earlier ++ block.lines ∧
      block.openedAt = body.openedAt + 1 + earlier.length ∧
      ∀ line ∈ block.lines, Directive.isMarked line = false := by
  -- the block that waits behind one more line is a new one, or the one before and this line
  obtain ⟨openedAt, lines⟩ := body
  induction lines using List.reverseRecOn generalizing block with
  | nil =>
    rw [pending?_start] at h
    cases h
  | append_singleton lines line ih =>
    have hbody : PageBody.mk openedAt (lines ++ [line]) =
        (PageBody.mk openedAt lines).concat line := rfl
    rw [hbody] at h
    cases hmarked : Directive.isMarked line with
    | true =>
      rw [pending?_concat_of_isMarked hmarked] at h
      cases h
    | false =>
      rw [pending?_concat_of_not_isMarked hmarked] at h
      cases hwaiting : (PageBody.mk openedAt lines).pending? grouped with
      | some waiting =>
        -- the block has waited before, and the line is one more of its lines
        obtain ⟨earlier, hlines, hopened, htext⟩ := ih hwaiting
        simp only [hwaiting, Option.ite_none_left_eq_some, Option.some.injEq] at h
        obtain ⟨-, rfl⟩ := h
        refine ⟨earlier, ?_, hopened, ?_⟩
        · simp only at hlines
          rw [Block.lines_concat, ← List.append_assoc, hlines]
        · rw [Block.lines_concat]
          exact List.forall_mem_append.mpr ⟨htext, by simpa using hmarked⟩
      | none =>
        simp only [hwaiting, Option.ite_none_left_eq_some, Option.map_eq_some_iff] at h
        obtain ⟨-, fence, -, rfl⟩ := h
        -- the line begins the block, so all lines before it come earlier
        refine ⟨lines, rfl, rfl, ?_⟩
        simpa [Block.lines] using hmarked

/-- Behind any lines, the lines of the block that waits are the last ones. -/
theorem exists_eq_append_of_pending? {files : FileSource} {base : Path} {before : List Text}
    {block : Block} (hopen : openBody? files base 1 before = some body)
    (h : body.pending? grouped = some block) :
    ∃ earlier, before = earlier ++ block.lines ∧ block.openedAt = earlier.length + 1 ∧
      ∀ line ∈ block.lines, Directive.isMarked line = false := by
  -- the lines of the block end the page, and the lines of the page end the lines before
  obtain ⟨earlier, start, hbefore, hopened, -, -⟩ := openBody?_split hopen
  obtain ⟨front, hlines, hblock, htext⟩ := lines_of_pending? h
  refine ⟨earlier ++ start :: front, ?_, ?_, htext⟩
  · rw [hbefore, hlines, List.append_assoc, List.cons_append]
  · rw [List.length_append, List.length_cons, hblock, hopened]
    omega

/-- The block that waits has no closing fence. -/
theorem isUnclosed_of_pending? {block : Block} (h : body.pending? grouped = some block) :
    block.isUnclosed = true :=
  isUnclosed_of_cutRun h

/-- Behind a block that waits, a line of text settles that block when it closes it. -/
theorem eq_of_mem_settledBy_of_some {fragment : Fragment} {block : Block}
    (hmarked : Directive.isMarked line = false) (hpending : body.pending? grouped = some block)
    (h : fragment ∈ body.settledBy grouped line) :
    block.fence.closes line = true ∧ fragment = .block (block.concat line) := by
  simp only [settledBy, hpending, hmarked, Bool.false_eq_true, ↓reduceIte] at h
  split at h
  · next hcloses => exact ⟨hcloses, List.mem_singleton.mp h⟩
  · cases h

/-- Where no block waits, a line settles at most itself. -/
theorem eq_of_mem_settledBy_of_none {fragment : Fragment} (hpending : body.pending? grouped = none)
    (h : fragment ∈ body.settledBy grouped line) : fragment = .line line := by
  simp only [settledBy, hpending] at h
  split at h
  · cases h
  · exact List.mem_singleton.mp h

/-- No line settles more than one fragment. -/
theorem settledBy_eq_of_mem {fragment : Fragment} (h : fragment ∈ body.settledBy grouped line) :
    body.settledBy grouped line = [fragment] := by
  have hlength : (body.settledBy grouped line).length ≤ 1 := by
    unfold settledBy
    split
    · split
      · rfl
      · split
        · rfl
        · exact Nat.zero_le 1
    · split
      · exact Nat.zero_le 1
      -- whichever tests succeed, one fragment is settled or none
      · rfl
  obtain ⟨other, hother⟩ := List.length_eq_one_iff.mp
    (Nat.le_antisymm hlength (List.length_pos_of_mem h))
  rw [hother, List.mem_singleton] at h
  rw [hother, h]

/-- A directive line settles the block that waits. -/
theorem settledBy_of_isMarked (h : Directive.isMarked line = true) :
    body.settledBy grouped line = (body.pending? grouped).toList.map .block := by
  rw [settledBy]
  cases body.pending? grouped with
  | none => simp [h]
  | some block => simp [h]

/-- Before a directive line all fragments of a page are settled. -/
theorem settled_append_settledBy_of_isMarked (h : Directive.isMarked line = true) :
    body.settled grouped ++ body.settledBy grouped line = body.fragments grouped := by
  rw [settledBy_of_isMarked h, fragments_eq]

/-- A further line settles just the fragments that it ends. -/
theorem settled_concat (grouped : Bool) (body : PageBody) (line : Text) :
    (body.concat line).settled grouped = body.settled grouped ++ body.settledBy grouped line := by
  cases hmarked : Directive.isMarked line with
  | true =>
    -- the last run has become an earlier one, with all its fragments
    obtain ⟨hearlier, hlast⟩ := runs_concat_of_isMarked body hmarked
    rw [settled_append_settledBy_of_isMarked hmarked]
    simp [settled, hearlier, hlast, fragments]
  | false =>
    rw [settled, (runs_concat_of_not_isMarked body hmarked).1, cutRun_lastRun_concat hmarked,
      settled, List.append_assoc, settledBy, pending?, Cut.concat]
    congr 1
    -- the earlier runs stay, and the last one is cut as `Cut.concat` says
    cases hunclosed : (cutRun grouped body.lastRun).unclosed with
    | some block =>
      cases hcloses : block.fence.closes line with
      | true => simp [hmarked, hcloses]
      | false => simp [hmarked, hcloses]
    | none =>
      cases Text.allBlank line with
      | true => simp [hmarked]
      | false =>
        cases grouped with
        | false => simp [hmarked]
        | true =>
          cases Fence.opener? line with
          | none => simp [hmarked]
          | some fence => simp [hmarked]

end Concat

/-! ## The page that the lines make -/

section Finished

/-- The pre-commands among the lines of a page. -/
def preCommands (files : FileSource) (base : Path) (body : PageBody) : List PreCommand :=
  body.lines.filterMap fun line => (directive? files base line).bind Directive.preCommand?

/-- The post-checks among the lines of a page. -/
def postChecks (files : FileSource) (base : Path) (body : PageBody) : List PostCheck :=
  body.lines.filterMap fun line => (directive? files base line).bind Directive.postCheck?

/-- The page with the commands of the lines and the text of the given fragments. -/
def pageWith (setting : Setting) (body : PageBody) (fragments : List Fragment) : Page where
  preCommands := body.preCommands setting.files setting.base
  text := fragments.flatMap (Fragment.html setting)
  postChecks := body.postChecks setting.files setting.base
  assets := Page.assetsOf (fragments.filterMap (Fragment.asset? setting.files setting.base))

/-- The page with all that its lines hold. -/
def page (setting : Setting) (body : PageBody) : Page :=
  body.pageWith setting (body.fragments setting.options.groupCodeFences)

/-- On a page no line of text, blank or not, follows a post-check. -/
def TextFirst (files : FileSource) (base : Path) (body : PageBody) : Prop :=
  body.lines.Pairwise fun earlier later =>
    isPostCheck files base earlier = true → Directive.isMarked later = true

variable {files : FileSource} {base : Path} {grouped : Bool} {body : PageBody} {line : Text}

theorem preCommands_concat (body : PageBody) (line : Text) :
    (body.concat line).preCommands files base =
      body.preCommands files base ++
        ((directive? files base line).bind Directive.preCommand?).toList := by
  simp only [preCommands, concat, List.filterMap_append]
  cases h : (directive? files base line).bind Directive.preCommand? with
  | none => simp [h]
  | some command => simp [h]

theorem postChecks_concat (body : PageBody) (line : Text) :
    (body.concat line).postChecks files base =
      body.postChecks files base ++
        ((directive? files base line).bind Directive.postCheck?).toList := by
  simp only [postChecks, concat, List.filterMap_append]
  cases h : (directive? files base line).bind Directive.postCheck? with
  | none => simp [h]
  | some check => simp [h]

theorem postChecks_eq_nil_iff :
    body.postChecks files base = [] ↔ ∀ line ∈ body.lines, isPostCheck files base line = false := by
  simp [postChecks, isPostCheck]

/-- Text keeps coming first when no post-check stands before it. -/
theorem textFirst_concat :
    (body.concat line).TextFirst files base ↔
      body.TextFirst files base ∧
        (Directive.isMarked line = false → body.postChecks files base = []) := by
  rw [TextFirst, concat, List.pairwise_append, postChecks_eq_nil_iff]
  constructor
  · intro h
    rcases h with ⟨hbody, -, hline⟩
    refine ⟨hbody, fun hmarked earlier hearlier => ?_⟩
    have himp := hline earlier hearlier line (List.mem_singleton_self line)
    simpa [hmarked] using himp
  · intro h
    rcases h with ⟨hbody, hline⟩
    refine ⟨hbody, List.pairwise_singleton _ _, fun earlier hearlier later hlater hcheck => ?_⟩
    rw [List.mem_singleton.mp hlater]
    -- a line of text would have needed a page without checks
    cases hmarked : Directive.isMarked line with
    | true => rfl
    | false => simp [hline hmarked earlier hearlier] at hcheck

theorem eq_empty_or_concat (body : PageBody) :
    body.lines = [] ∨ ∃ earlier line, body = PageBody.concat earlier line := by
  rcases List.eq_nil_or_concat body.lines with hnil | ⟨lines, line, hlines⟩
  · exact .inl hnil
  · refine .inr ⟨⟨body.openedAt, lines⟩, line, ?_⟩
    cases body
    simp_all [concat]

/-- Before a block that waits for its end there is no post-check. -/
theorem postChecks_eq_nil_of_pending? (hfirst : body.TextFirst files base) {block : Block}
    (hpending : body.pending? grouped = some block) : body.postChecks files base = [] := by
  -- the last line of the page is text, since a directive line would have ended the block
  rcases body.eq_empty_or_concat with hnil | ⟨earlier, line, rfl⟩
  · simp [postChecks, hnil]
  · cases hmarked : Directive.isMarked line with
    | true =>
      rw [pending?_concat_of_isMarked hmarked] at hpending
      cases hpending
    | false =>
      rw [postChecks_concat, (textFirst_concat.mp hfirst).2 hmarked,
        directive?_of_not_isMarked hmarked]
      rfl

end Finished

end PageBody

end TutorialPages
