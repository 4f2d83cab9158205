import TutorialPages.Proofs.Assembly.Renumber
import TutorialPages.Proofs.Document.Compiled
import TutorialPages.Proofs.Layout.ExplicitEnds

/-!
# Implicit and explicit ends of pages

A page that ends at the next `START PAGE`, or with the document, is the page that it would be with
an `END PAGE` there. The two runs are compared line by line: behind the same lines, with and without
the markers, the assemblies mirror each other up to the numbers and the warnings about the markers.
-/

namespace TutorialPages

open Layout Traced

/-- The setting where a page may, or may not, be open at the end. -/
def Setting.allowing (setting : Setting) (allow : Bool) : Setting :=
  { setting with options.allowUnterminatedPage := allow }

namespace Assembly

variable {setting : Setting} {before : List Text} {line : Text} {f : Nat → Nat}
  {assembly assembly' : Assembly} {body : PageBody}

/-- What is allowed at the end does not matter before. -/
theorem feedAll_allowing (setting : Setting) (allow : Bool) (number : Nat) (lines : List Text)
    (assembly : Assembly) :
    feedAll (setting.allowing allow) number lines assembly =
      feedAll setting number lines assembly := by
  induction lines generalizing number assembly with
  | nil => rfl
  | cons line rest ih =>
    have hrest : feedAll (setting.allowing allow) (number + 1) rest =
        feedAll setting (number + 1) rest := funext fun next => ih (number + 1) next
    rw [feedAll, hrest]
    rfl

/-! ## The marker -/

/-- To end a page its number is not needed. -/
theorem feed_endLine_number (setting : Setting) (number number' : Nat) (assembly : Assembly) :
    feed setting number endLine assembly = feed setting number' endLine assembly := by
  have happly : feedDirective setting number endLine = feedDirective setting number' endLine := by
    funext assembly
    rw [feedDirective, feedDirective, read_endLine, pure_bind, pure_bind]
    obtain ⟨current, pages, warnings⟩ := assembly
    cases current with
    | none => rfl
    | some page => rfl
  obtain ⟨current, pages, warnings⟩ := assembly
  cases current with
  | none => simp only [feed, isMarked_endLine, ↓reduceIte, happly]
  | some page => simp only [feed, isMarked_endLine, ↓reduceIte, happly]

/-- Outside of any page a `START PAGE` opens one. -/
theorem feed_startPage_outside {number : Nat} (hcurrent : assembly.current = none)
    (hopens : opensPage setting.files setting.base line = true) :
    (feed setting number line assembly).outcome =
      .ok { assembly with current := some (.start number) } := by
  have hdirective := opensPage_iff.mp hopens
  have hmarked := isMarked_of_directive?_eq_some hdirective
  rw [feed_outside_directive hcurrent hmarked]
  refine feedDirective_eq_ok.mpr ⟨.startPage, (directive?_eq_some_iff hmarked).mp hdirective, ?_⟩
  exact (apply_outside_eq_ok hcurrent).mpr ⟨rfl, rfl⟩

/-! ## Assemblies that mirror each other -/

/-- The second assembly is the first under other numbers and without the warnings about missing
markers. -/
structure Mirrors (f : Nat → Nat) (assembly assembly' : Assembly) : Prop where
  current : assembly'.current = assembly.current.map (OpenPage.renumber f)
  pages : assembly'.pages = assembly.pages
  warnings : assembly'.warnings =
    (assembly.warnings.filter (!Warning.isMissingEnd ·)).map (Warning.renumber f)

/-- Before the first line nothing is known in both. -/
theorem Mirrors.start (f : Nat → Nat) : Mirrors f Assembly.start Assembly.start :=
  ⟨rfl, rfl, rfl⟩

/-- A line before which no marker is missing does the same in both. -/
theorem Mirrors.feed_of_not_nestedStart (h : Mirrors f (reached setting before) assembly')
    (hpassable : Passable setting before) (hpasses : Passes setting before line)
    (hnested : isNestedStart setting.files setting.base before line = false) :
    ∃ next', (feed setting (f (1 + before.length)) line assembly').outcome = .ok next' ∧
      Mirrors f (reached setting (before ++ [line])) next' := by
  have hline := (feed_reached_eq_ok hpassable).mpr ⟨hpasses, rfl⟩
  obtain ⟨next', hok, halike⟩ :=
    (feed_of_current setting (1 + before.length) line h.current).of_ok hline
  obtain ⟨pages, warnings, hpages, hpages', hwarnings, hwarnings'⟩ := halike.appended
  -- what is added to the warnings are those that the line brings, and all of them stay
  have hadded : warnings = lineWarnings setting before line := by
    have hconcat : (reached setting (before ++ [line])).warnings =
        (reached setting before).warnings ++ lineWarnings setting before line :=
      linesWarnings_concat [] before line
    exact List.append_cancel_left (hwarnings.symm.trans hconcat)
  refine ⟨next', hok, halike.current, ?_, ?_⟩
  · rw [hpages', hpages, h.pages]
  · rw [hwarnings', hwarnings, h.warnings, List.filter_append, List.map_append, hadded,
      filter_lineWarnings_of_not_nestedStart hnested]

/-- The marker closes the open page, which would be closed without it a little later. -/
theorem Mirrors.feed_endLine (h : Mirrors f (reached setting before) assembly')
    (hpassable : Passable setting before)
    (hopen : openBody? setting.files setting.base 1 before = some body)
    (haccepted : ∀ block, body.pending? setting.options.groupCodeFences = some block →
      (Fragment.block block).Accepted setting)
    (hinhabited : (body.page setting).isEmpty = false) (number : Nat) :
    (feed setting number endLine assembly').outcome =
      .ok { current := none
            pages := assembly'.pages ++ [body.page setting]
            warnings := assembly'.warnings ++
              ((body.pending? setting.options.groupCodeFences).toList.map
                (Block.warning setting.options)).map (Warning.renumber f) } := by
  have hcloses := closesPage_endLine setting.files setting.base
  have hpasses : Passes setting before endLine := by
    refine (passes_inside_iff hopen).mpr ⟨fun _ => ?_, ?_, ?_, fun _ => hinhabited⟩
    · exact ⟨_, closesPage_iff.mp hcloses⟩
    · intro hmarked
      cases hmarked
    · rw [PageBody.settledBy_of_isMarked isMarked_endLine]
      simpa using haccepted
  have hline := (feed_reached_eq_ok hpassable).mpr ⟨hpasses, rfl⟩
  rw [reached_endPage hopen hcloses] at hline
  obtain ⟨⟨current, pages', warnings'⟩, hok, halike⟩ :=
    (feed_of_current setting (1 + before.length) endLine h.current).of_ok hline
  obtain ⟨pages, warnings, hpages, hpages', hwarnings, hwarnings'⟩ := halike.appended
  have hcurrent := halike.current
  -- both have taken up the finished page and the warning about its block
  obtain rfl := List.append_cancel_left hpages
  obtain rfl := List.append_cancel_left hwarnings
  simp only [Option.map_none] at hcurrent hpages' hwarnings'
  subst hcurrent hpages' hwarnings'
  rw [feed_endLine_number setting number (f (1 + before.length)), hok]

/-- A `START PAGE` behind the marker that was missing opens the same page. -/
theorem Mirrors.feed_nestedStart (h : Mirrors f (reached setting before) assembly')
    (hpassable : Passable setting before) (hpasses : Passes setting before line)
    (hnested : isNestedStart setting.files setting.base before line = true) (number : Nat) :
    ∃ closed' next', (feed setting number endLine assembly').outcome = .ok closed' ∧
      (feed setting (f (1 + before.length)) line closed').outcome = .ok next' ∧
      Mirrors f (reached setting (before ++ [line])) next' := by
  rw [isNestedStart, leavesOpen_eq 1, Bool.and_eq_true, Option.isSome_iff_exists] at hnested
  obtain ⟨hopens, body, hopen⟩ := hnested
  have hmarked := isMarked_of_directive?_eq_some (opensPage_iff.mp hopens)
  obtain ⟨-, -, hsettled, hinhabited⟩ := (passes_inside_iff hopen).mp hpasses
  have haccepted : ∀ block, body.pending? setting.options.groupCodeFences = some block →
      (Fragment.block block).Accepted setting := by
    rw [PageBody.settledBy_of_isMarked hmarked] at hsettled
    simpa using hsettled
  have hclose := h.feed_endLine hpassable hopen haccepted
    (hinhabited (isPageMarker_of_opensPage hopens)) number
  -- behind the marker no page is open any more
  refine ⟨_, _, hclose, feed_startPage_outside rfl hopens, ?_⟩
  rw [reached_startPage_inside hopen hopens]
  refine ⟨rfl, ?_, ?_⟩
  · rw [h.pages]
  · rw [h.warnings]
    simp [Warning.filter_map_warning]

/-! ## The whole run -/

/-- The lines with the markers are taken, and the two assemblies mirror each other behind them. -/
theorem feedAll_separate (hpassable : Passable setting before) (after : List Text) :
    ∃ assembly',
      (feedAll setting 1 (separate setting.files setting.base [] before) start).outcome =
        .ok assembly' ∧
      Mirrors (newNumber setting.files setting.base (before ++ after)) (reached setting before)
        assembly' := by
  induction before using List.reverseRecOn generalizing after with
  | nil => exact ⟨start, rfl, Mirrors.start _⟩
  | append_singleton before line ih =>
    obtain ⟨hbefore, hpasses⟩ := passable_concat.mp hpassable
    obtain ⟨assembly', htaken, hmirrors⟩ := ih hbefore (line :: after)
    rw [← List.append_cons]
    have hnumber := newNumber_of_split setting.files setting.base before line after
    rw [separate_concat, List.nil_append]
    -- one step on each side, or two on the side that has the marker
    cases hnested : isNestedStart setting.files setting.base before line with
    | false =>
      obtain ⟨next', hline, hnext⟩ := hmirrors.feed_of_not_nestedStart hbefore hpasses hnested
      rw [hnumber] at hline
      refine ⟨next', feedAll_concat_eq_ok.mpr ⟨assembly', ?_, hline⟩, hnext⟩
      rw [missingEnd_of_not_nestedStart hnested, List.append_nil]
      exact htaken
    | true =>
      obtain ⟨closed', next', hclose, hline, hnext⟩ :=
        hmirrors.feed_nestedStart hbefore hpasses hnested
          (1 + (separate setting.files setting.base [] before).length)
      rw [hnumber] at hline
      refine ⟨next', feedAll_concat_eq_ok.mpr ⟨closed', ?_, hline⟩, hnext⟩
      rw [missingEnd_of_nestedStart hnested]
      exact feedAll_concat_eq_ok.mpr ⟨assembly', htaken, hclose⟩

/-- With the markers the lines leave no page open, so nothing is left to be done at their end. -/
theorem run_withEnds_of_admissible {lines : List Text} (hadmissible : Admissible setting lines)
    (allow : Bool) :
    (run (setting.allowing allow) (withEnds setting.files setting.base lines)).outcome =
      .ok ⟨(Compiled.ofLines setting lines).document,
        ((Compiled.ofLines setting lines).warnings.filter (!Warning.isMissingEnd ·)).map
          (Warning.renumber (newNumber setting.files setting.base lines))⟩ := by
  obtain ⟨hpassable, hlast⟩ := admissible_iff.mp hadmissible
  obtain ⟨assembly', htaken, hmirrors⟩ := feedAll_separate hpassable []
  rw [List.append_nil] at hmirrors
  rw [run_eq_ok, feedAll_allowing, withEnds, leavesOpen_eq 1, Compiled.ofLines, pageBodies_eq,
    lastWarnings]
  cases hopen : openBody? setting.files setting.base 1 lines with
  | none =>
    have hcurrent : assembly'.current = none := by
      rw [hmirrors.current, current_reached_outside hopen, Option.map_none]
    refine ⟨assembly', ?_, ?_⟩
    · simpa using htaken
    · rw [finish_of_none hcurrent, hmirrors.pages, hmirrors.warnings]
      simp [reached]
  | some body =>
    -- the last marker does what is done at the end of the lines otherwise
    obtain ⟨-, haccepted, hinhabited⟩ := hlast body hopen
    have hclose := hmirrors.feed_endLine hpassable hopen haccepted hinhabited
      (1 + (separate setting.files setting.base [] lines).length)
    refine ⟨_, feedAll_concat_eq_ok.mpr ⟨assembly', htaken, hclose⟩, ?_⟩
    rw [finish_of_none rfl, hmirrors.pages, hmirrors.warnings]
    simp [reached, Warning.filter_map_warning]

end Assembly

/-- To end pages implicitly is to end them explicitly: with an `END PAGE` for each page the lines
compile to the same pages, whether or not a page may be open at the end, and the warnings are the
same but for those about the markers, with the numbers that the lines have now. -/
theorem run_withEnds (setting : Setting) (lines : List Text) (compiled : Compiled)
    (h : (Assembly.run (setting.allowing true) lines).outcome = .ok compiled) (allow : Bool) :
    (Assembly.run (setting.allowing allow)
        (withEnds setting.files setting.base lines)).outcome =
      .ok ⟨compiled.document, (compiled.warnings.filter (!Warning.isMissingEnd ·)).map
        (Warning.renumber (newNumber setting.files setting.base lines))⟩ := by
  obtain ⟨hadmissible, rfl⟩ := run_eq_ok_iff.mp h
  exact Assembly.run_withEnds_of_admissible hadmissible allow

/-- Two pages without a marker, of which the second ends inside a block, where no page may be open
at the end. -/
theorem run_withEnds_verbatim :
    (Assembly.run (Setting.allowing (.verbatim { groupCodeFences := true }) false)
      ["-> START PAGE".toList, "Hi".toList, "-> END PAGE".toList, "-> START PAGE".toList,
        "~~~".toList, "-> END PAGE".toList]).outcome =
      .ok ⟨⟨[⟨[], "Hi".toList, [], none⟩, ⟨[], "~~~".toList, [], none⟩]⟩,
        [.unclosedCodeFence ⟨none, 5⟩ '~']⟩ := by
  have himplicit : (Assembly.run (Setting.allowing (.verbatim { groupCodeFences := true }) true)
      ["-> START PAGE".toList, "Hi".toList, "-> START PAGE".toList, "~~~".toList]).outcome =
      .ok ⟨⟨[⟨[], "Hi".toList, [], none⟩, ⟨[], "~~~".toList, [], none⟩]⟩,
        [.nestedStartPage ⟨none, 3⟩ 1, .unterminatedPage ⟨none, 3⟩,
          .unclosedCodeFence ⟨none, 4⟩ '~']⟩ := by
    rfl
  exact run_withEnds _ _ _ himplicit false

end TutorialPages
