import TutorialPages.Proofs.Assembly.Failing
import TutorialPages.Proofs.Document.Plain
import TutorialPages.Proofs.Layout.Place

/-!
# What the renderer refuses

When a document fails because the renderer refuses something, then it has refused the first fragment
of the document that cannot be put on its page, and no other. Which line the failure names depends
on how the fragment ends. A fragment that is complete is refused on its last line. A block without a
closing fence is not rendered before something else ends it, and then the failure names what has
ended it: the directive line behind the block, or the page that is open at the end of the document.
So the line that is named is a line of the fragment exactly when the fragment is complete.
-/

namespace TutorialPages

open Layout Traced

/-- The renderer refuses the fragment between these lines, and nothing keeps the fragments of the
document before it from their pages. -/
structure Fragment.RefusedFirst (setting : Setting) (lines before : List Text)
    (fragment : Fragment) (after : List Text) (error : RenderError) : Prop
    extends fragment.Stands lines before after where
  refused : setting.renderer fragment.source = .error error
  first : ∃ earlier later,
    documentFragments setting.files setting.base setting.options.groupCodeFences lines =
      earlier ++ fragment :: later ∧ ∀ other ∈ earlier, other.Accepted setting

/-- The line that is named when the fragment between these lines is refused. -/
inductive Fragment.ReportedAt (setting : Setting) (lines before : List Text) (fragment : Fragment)
    (after : List Text) : Nat → Text → Prop where
  /-- The last line of a fragment that is complete. -/
  | lastLine {line : Text} (complete : fragment.isUnclosed = false)
      (last : fragment.lines.getLast? = some line) :
      fragment.ReportedAt setting lines before after (before.length + fragment.lines.length) line
  /-- The directive line right behind a block without a closing fence. -/
  | directive {line : Text} {rest : List Text} (unclosed : fragment.isUnclosed = true)
      (next : after = line :: rest) (marked : Directive.isMarked line = true) :
      fragment.ReportedAt setting lines before after (before.length + fragment.lines.length + 1)
        line
  /-- The start of the page of a block without a closing fence that ends the document. -/
  | start {number : Nat} {line : Text} (unclosed : fragment.isUnclosed = true) (last : after = [])
      (opened : LastStart setting.files setting.base lines number line) :
      fragment.ReportedAt setting lines before after number line

variable {setting : Setting} {before : List Text} {line : Text} {error : RenderError}

/-! ## A line on which something is refused -/

namespace Assembly

section Inside

variable {body : PageBody}
  (hopen : openBody? setting.files setting.base 1 before = some body)
  (hfirst : body.TextFirst setting.files setting.base)
  (h : (feed setting (1 + before.length) line (reached setting before)).outcome =
    .error (.refused error))

include hopen hfirst h

/-- On a directive line it is the block that waits. -/
theorem exists_settledBy_of_refused_directive (hmarked : Directive.isMarked line = true) :
    ∃ fragment ∈ body.settledBy setting.options.groupCodeFences line,
      setting.renderer fragment.source = .error error := by
  -- a block waits only where no check stands behind it, so it is not the directive that is refused
  have hwaits := (PageBody.sound_openPage hopen hfirst).postChecks_of_isSome_pending
  rcases feed_inside_directive_failsOnly (current_reached_inside hopen) hmarked hwaits _ h with
    hnot | ⟨pending, hpending, hrefused⟩
  · exact absurd (Problem.isOfText_refused error) hnot
  · obtain ⟨block, hblock, rfl⟩ := Option.map_eq_some_iff.mp hpending
    refine ⟨.block block, ?_, hrefused.eq_error⟩
    rw [PageBody.settledBy_of_isMarked hmarked, hblock]
    exact List.mem_singleton_self _

/-- A line of text on which something is refused settles a fragment. -/
theorem settledBy_ne_nil_of_refused_text (hmarked : Directive.isMarked line = false)
    (hchecks : body.postChecks setting.files setting.base = []) :
    body.settledBy setting.options.groupCodeFences line ≠ [] := by
  intro hnone
  -- a line that settles nothing is taken
  have htaken := (PageBody.feed_openPage_text_eq_ok (current_reached_inside hopen) hfirst
    hmarked).mpr ⟨hchecks, by simp [hnone], rfl⟩
  rw [(openBody?_number hopen).2, h] at htaken
  cases htaken

/-- On a line of text it is the block that the line closes, or the line itself. -/
theorem exists_settledBy_of_refused_text (hmarked : Directive.isMarked line = false) :
    ∃ fragment ∈ body.settledBy setting.options.groupCodeFences line,
      setting.renderer fragment.source = .error error := by
  have hcurrent := current_reached_inside hopen
  cases hblock : body.pending? setting.options.groupCodeFences with
  | some block =>
    have hpending := PageBody.openPage_pending_of_some hblock
    have hchecks := PageBody.postChecks_eq_nil_of_pending? hfirst hblock
    obtain ⟨fragment, hfragment⟩ := List.exists_mem_of_ne_nil _
      (settledBy_ne_nil_of_refused_text hopen hfirst h hmarked hchecks)
    refine ⟨fragment, hfragment, ?_⟩
    -- the line closes the block, and the source it makes is what the renderer got
    obtain ⟨-, rfl⟩ := PageBody.eq_of_mem_settledBy_of_some hmarked hblock hfragment
    show setting.renderer (block.concat line).source = .error error
    rw [Block.source_concat]
    exact (feed_inside_block_failsOnly hcurrent hmarked hpending hchecks _ h).eq_error
  | none =>
    have hpending := PageBody.openPage_pending_of_none hblock
    have hchecks : body.postChecks setting.files setting.base = [] := by
      by_contra hchecks
      -- the line would have been refused for another reason
      rw [feed_of_textAfterPostCheck hcurrent hmarked hpending hchecks] at h
      cases h
    obtain ⟨fragment, hfragment⟩ := List.exists_mem_of_ne_nil _
      (settledBy_ne_nil_of_refused_text hopen hfirst h hmarked hchecks)
    refine ⟨fragment, hfragment, ?_⟩
    obtain rfl := PageBody.eq_of_mem_settledBy_of_none hblock hfragment
    rcases feed_inside_text_failsOnly hcurrent hmarked hpending hchecks _ h with hnot | hrefused
    · exact absurd (Problem.isOfText_refused error) hnot
    · exact hrefused.eq_error

end Inside

/-- What the renderer refuses on a line is a fragment that the line settles. -/
theorem exists_settledBy_of_refused (hpassable : Passable setting before)
    (h : (feed setting (1 + before.length) line (reached setting before)).outcome =
      .error (.refused error)) :
    ∃ body, openBody? setting.files setting.base 1 before = some body ∧
      ∃ fragment ∈ body.settledBy setting.options.groupCodeFences line,
        setting.renderer fragment.source = .error error := by
  cases hopen : openBody? setting.files setting.base 1 before with
  | none =>
    -- outside of any page nothing is rendered
    have hnot := feed_outside_failsOnly (current_reached_outside hopen) _ h
    exact absurd (Problem.isOfText_refused error) hnot
  -- a marked line flushes the block that waits, and any other line settles text
  | some body =>
    have hfirst := hpassable.textFirst_of_openBody? hopen
    refine ⟨body, rfl, ?_⟩
    cases hmarked : Directive.isMarked line with
    | true => exact exists_settledBy_of_refused_directive hopen hfirst h hmarked
    | false => exact exists_settledBy_of_refused_text hopen hfirst h hmarked

end Assembly

/-! ## The line that is named -/

namespace Fragment.ReportedAt

variable {lines after : List Text} {fragment : Fragment} {number : Nat}

/-- A directive line is named for a block without a closing fence alone. -/
theorem isMarked_eq (hstands : fragment.Stands lines before after)
    (h : fragment.ReportedAt setting lines before after number line) :
    Directive.isMarked line = fragment.isUnclosed := by
  cases h with
  | lastLine complete last =>
    rw [complete]
    exact hstands.text line (List.mem_of_getLast? last)
  | directive unclosed next marked => rw [marked, unclosed]
  | start unclosed last opened =>
    obtain ⟨earlier, later, -, -, hopens, -⟩ := opened
    rw [unclosed]
    exact isMarked_of_directive?_eq_some (opensPage_iff.mp hopens)

/-- The line that is named is one of the document. -/
theorem getElem?_eq (hstands : fragment.Stands lines before after)
    (h : fragment.ReportedAt setting lines before after number line) :
    lines[number - 1]? = some line := by
  cases h with
  | lastLine complete last =>
    rw [List.getLast?_eq_getElem?] at last
    have hne : fragment.lines.length ≠ 0 := by
      intro hnil
      rw [List.length_eq_zero_iff.mp hnil] at last
      -- the last line of the fragment is where its lines end
      cases last
    rw [hstands.split, List.append_assoc, List.getElem?_append_right (by omega),
      List.getElem?_append_left (by omega), ← last]
    congr 1
    omega
  | directive unclosed next marked =>
    rw [hstands.split, next]
    simp
  | start unclosed last opened => exact opened.getElem?

/-- It is a line of the fragment exactly when the fragment is complete. -/
theorem hasLine_iff (hstands : fragment.Stands lines before after)
    (h : fragment.ReportedAt setting lines before after number line) :
    fragment.HasLine before number ↔ fragment.isUnclosed = false := by
  constructor
  · intro hnumber
    -- the lines of the fragment are text
    have hmem := hstands.mem_of_hasLine hnumber (h.getElem?_eq hstands)
    rw [← h.isMarked_eq hstands]
    exact hstands.text line hmem
  · intro hcomplete
    cases h with
    | lastLine complete last =>
      have hpos := List.length_pos_of_mem (List.mem_of_getLast? last)
      exact ⟨by omega, Nat.le_refl _⟩
    | directive unclosed next marked =>
      rw [hcomplete] at unclosed
      cases unclosed
    | start unclosed last opened =>
      rw [hcomplete] at unclosed
      cases unclosed

/-- A line by itself is named itself. -/
theorem eq_of_line {text : Text}
    (h : (Fragment.line text).ReportedAt setting lines before after number line) :
    line = text := by
  cases h with
  | lastLine complete last => exact (Option.some.inj last).symm
  | directive unclosed next marked => cases unclosed
  | start unclosed last opened => cases unclosed

end Fragment.ReportedAt

/-- Without grouping all fragments are lines by themselves. -/
theorem Layout.exists_eq_line_of_mem_documentFragments {files : FileSource} {base : Path}
    {lines : List Text} {fragment : Fragment}
    (h : fragment ∈ documentFragments files base false lines) :
    ∃ text, fragment = .line text := by
  obtain ⟨body, -, hfragment⟩ := List.mem_flatMap.mp h
  rw [PageBody.fragments_of_not_grouped, List.mem_map] at hfragment
  obtain ⟨text, -, rfl⟩ := hfragment
  exact ⟨text, rfl⟩

/-! ## A document that is refused -/

namespace Assembly

variable {lines : List Text} {failure : Failure}

/-- On a line the fragment is refused that the line settles. -/
theorem exists_refusedFirst_of_failsOnLine (h : FailsOnLine setting lines failure)
    (hrefused : failure.problem = .refused error) :
    ∃ (before : List Text) (fragment : Fragment) (after : List Text),
      fragment.RefusedFirst setting lines before after error ∧
      fragment.ReportedAt setting lines before after failure.location.line failure.lineText := by
  obtain ⟨before, line, after, middle, problem, rfl, htaken, hproblem, rfl⟩ := h
  obtain rfl : problem = .refused error := hrefused
  obtain ⟨hpassable, rfl⟩ := feedAll_start_eq_ok.mp htaken
  obtain ⟨body, hopen, fragment, hfragment, hrender⟩ :=
    exists_settledBy_of_refused hpassable hproblem
  obtain ⟨later, hfragments⟩ := exists_documentFragments_of_mem_settledBy hopen hfragment after
  -- nothing before is refused, since all lines before are taken
  have hfirst := And.intro hfragments hpassable.accepted
  have hplace : (failureAt setting (1 + before.length) line (.refused error)).location.line =
      1 + before.length := rfl
  rcases stands_of_mem_settledBy hopen hfragment after with
    ⟨hcomplete, hlast, earlier, hstands⟩ | ⟨hunclosed, hmarked, earlier, hstands⟩
  -- a complete fragment ends on the line that is fed
  · refine ⟨earlier, fragment, after, ⟨hstands, hrender, _, later, hfirst⟩, ?_⟩
    have hlength := hstands.length_eq
    rw [List.length_append, List.length_cons] at hlength
    have hnumber : 1 + before.length = earlier.length + fragment.lines.length := by
      omega
    rw [hplace, hnumber]
    exact .lastLine hcomplete hlast
  -- a block without a closing fence ends before it, and the line is a directive
  · refine ⟨earlier, fragment, line :: after, ⟨hstands, hrender, _, later, hfirst⟩, ?_⟩
    have hlength := hstands.length_eq
    rw [List.length_append, List.length_cons] at hlength
    have hnumber : 1 + before.length = earlier.length + fragment.lines.length + 1 := by
      omega
    rw [hplace, hnumber]
    exact .directive hunclosed rfl hmarked

/-- At the end of the document the block is refused that waits there. -/
theorem exists_refusedFirst_of_failsAtEnd (h : FailsAtEnd setting lines failure)
    (hrefused : failure.problem = .refused error) :
    ∃ (before : List Text) (fragment : Fragment) (after : List Text),
      fragment.RefusedFirst setting lines before after error ∧
      fragment.ReportedAt setting lines before after failure.location.line failure.lineText := by
  have hstart := h.lastStart
  obtain ⟨last, page, problem, htaken, hcurrent, hproblem, rfl⟩ := h
  obtain rfl : problem = .refused error := hrefused
  obtain ⟨hpassable, rfl⟩ := feedAll_start_eq_ok.mp htaken
  obtain ⟨body, hopen, rfl⟩ := Option.map_eq_some_iff.mp hcurrent
  have hsound := PageBody.sound_openPage hopen (hpassable.textFirst_of_openBody? hopen)
  -- a complete page is refused only for the block that waits, and only where it may stay open
  have hclass := closeLast_failsOnly hsound.postChecks_of_isSome_pending _ hproblem
  split at hclass
  · rcases hclass with hempty | ⟨pending, hpending, hrefused⟩
    · cases hempty
    · obtain ⟨block, hblock, rfl⟩ := Option.map_eq_some_iff.mp hpending
      obtain ⟨earlier, hlines, -, htext⟩ := PageBody.exists_eq_append_of_pending? hopen hblock
      have hstands : (Fragment.block block).Stands lines earlier [] :=
        ⟨by rw [List.append_nil]; exact hlines, htext⟩
      have hfragments : documentFragments setting.files setting.base
          setting.options.groupCodeFences lines =
            settledFragments setting.files setting.base setting.options.groupCodeFences lines ++
              [.block block] := by
        rw [documentFragments_eq, hopen]
        simp [hblock]
      refine ⟨earlier, .block block, [],
        ⟨hstands, hrefused.eq_error, _, [], hfragments, hpassable.accepted⟩, ?_⟩
      exact .start (PageBody.isUnclosed_of_pending? hblock) rfl hstart
  · cases hclass

/-- There is no third place where something is refused. -/
theorem exists_refusedFirst_of_run_eq_error (h : (run setting lines).outcome = .error failure)
    (hrefused : failure.problem = .refused error) :
    ∃ (before : List Text) (fragment : Fragment) (after : List Text),
      fragment.RefusedFirst setting lines before after error ∧
      fragment.ReportedAt setting lines before after failure.location.line failure.lineText := by
  rcases run_eq_error_iff.mp h with hline | hend
  · exact exists_refusedFirst_of_failsOnLine hline hrefused
  · exact exists_refusedFirst_of_failsAtEnd hend hrefused

end Assembly

/-- When a document is refused by the renderer, then because of its first fragment that cannot be
put on its page. The failure names the last line of that fragment when the fragment is complete, and
else, for a block without a closing fence, the directive line behind it or the start of the page
that the document leaves open. So it names a line of the fragment just when the fragment is
complete, a directive line just when it is not, and without grouping always the line itself that is
refused. -/
theorem compile_refused (setting : Setting) (content : Text) (failure : Failure)
    (error : RenderError) (h : (compile setting content).outcome = .error failure)
    (hrefused : failure.problem = .refused error) :
    ∃ (before : List Text) (fragment : Fragment) (after : List Text),
      fragment.RefusedFirst setting (Text.lines content) before after error ∧
      fragment.ReportedAt setting (Text.lines content) before after failure.location.line
        failure.lineText ∧
      (fragment.HasLine before failure.location.line ↔ fragment.isUnclosed = false) ∧
      Directive.isMarked failure.lineText = fragment.isUnclosed ∧
      (setting.options.groupCodeFences = false → fragment = .line failure.lineText) := by
  obtain ⟨before, fragment, after, hfragment, hreported⟩ :=
    Assembly.exists_refusedFirst_of_run_eq_error h hrefused
  have hstands := hfragment.toStands
  refine ⟨before, fragment, after, hfragment, hreported, hreported.hasLine_iff hstands,
    -- without grouping every fragment is a line, and the line that is named is that one
    hreported.isMarked_eq hstands, fun hgrouped => ?_⟩
  obtain ⟨earlier, later, hfragments, -⟩ := hfragment.first
  rw [hgrouped] at hfragments
  have hmem : fragment ∈ documentFragments setting.files setting.base false
      (Text.lines content) := by
    rw [hfragments]
    exact List.mem_append_right _ List.mem_cons_self
  obtain ⟨text, rfl⟩ := exists_eq_line_of_mem_documentFragments hmem
  rw [hreported.eq_of_line]

/-- Each fragment is its own HTML unless the word `BOOM` stands in it, and blocks are grouped. -/
def Setting.cautious : Setting where
  base := []
  options := { groupCodeFences := true }
  renderer := fun fragment =>
    if Text.occursIn "BOOM" fragment then .error ⟨"refused ".toList ++ fragment⟩ else .ok fragment
  files := .ofBytes fun _ => .error ⟨.notFound, "no such file"⟩

/-- A block that is refused on its closing fence. -/
theorem compile_refused_cautious :
    (compile .cautious "-> START PAGE\nHi\n~~~\nBOOM\n~~~\n-> END PAGE".toList).outcome =
      .error ⟨⟨none, 5⟩, "~~~".toList, .refused ⟨"refused ~~~\nBOOM\n~~~".toList⟩⟩ ∧
    ∃ (before : List Text) (fragment : Fragment) (after : List Text),
      fragment.RefusedFirst .cautious
        (Text.lines "-> START PAGE\nHi\n~~~\nBOOM\n~~~\n-> END PAGE".toList) before after
        ⟨"refused ~~~\nBOOM\n~~~".toList⟩ ∧
      fragment.HasLine before 5 := by
  have houtcome :
      (compile .cautious "-> START PAGE\nHi\n~~~\nBOOM\n~~~\n-> END PAGE".toList).outcome =
        .error ⟨⟨none, 5⟩, "~~~".toList, .refused ⟨"refused ~~~\nBOOM\n~~~".toList⟩⟩ := by
    rfl
  refine ⟨houtcome, ?_⟩
  obtain ⟨before, fragment, after, hfragment, -, hline, hmarked, -⟩ :=
    compile_refused _ _ _ _ houtcome rfl
  exact ⟨before, fragment, after, hfragment, hline.mpr hmarked.symm⟩

/-- The line that is named need not be one of the fragment: a block without a closing fence is
refused on the directive line behind it. -/
theorem compile_refused_directive :
    ¬∀ (setting : Setting) (content : Text) (failure : Failure) (error : RenderError),
      (compile setting content).outcome = .error failure → failure.problem = .refused error →
      ∃ (before : List Text) (fragment : Fragment) (after : List Text),
        fragment.RefusedFirst setting (Text.lines content) before after error ∧
        fragment.HasLine before failure.location.line := by
  intro hclaim
  have houtcome :
      (compile .cautious "-> START PAGE\n``` BOOM\n-> END PAGE".toList).outcome =
        .error ⟨⟨none, 3⟩, "-> END PAGE".toList, .refused ⟨"refused ``` BOOM".toList⟩⟩ := by
    rfl
  obtain ⟨before, fragment, after, hfragment, hnumber⟩ := hclaim _ _ _ _ houtcome rfl
  -- the third line is a directive line, and the lines of the fragment are text
  have hmem : "-> END PAGE".toList ∈ fragment.lines :=
    hfragment.toStands.mem_of_hasLine hnumber rfl
  have hmarked : Directive.isMarked "-> END PAGE".toList = true := by rfl
  rw [hfragment.text _ hmem] at hmarked
  cases hmarked

end TutorialPages
