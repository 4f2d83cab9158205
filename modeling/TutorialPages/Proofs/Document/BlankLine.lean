import TutorialPages.Proofs.Assembly.Renumber
import TutorialPages.Proofs.Document.Concatenation
import TutorialPages.Proofs.Document.TextFirst

/-!
# One more blank line

Where text is welcome a blank line does nothing: the assembly is the same before and behind it, and
so the lines that follow do the same, one line further down. What has been written down before the
blank line keeps its number. Behind a post-check a blank line is text like any other, and refused.
-/

namespace TutorialPages

open Layout Traced

/-- The number of a line once another line stands behind the first `k` lines. -/
def numberBeside (k number : Nat) : Nat :=
  if number ≤ k then number else number + 1

theorem numberBeside_of_le {k number : Nat} (h : number ≤ k) : numberBeside k number = number :=
  if_pos h

theorem numberBeside_of_lt {k number : Nat} (h : k < number) :
    numberBeside k number = number + 1 :=
  if_neg (Nat.not_le.mpr h)

/-- A line is found again under its new number. -/
theorem getElem?_numberBeside {before after : List Text} (line : Text) {number : Nat}
    (hnumber : 1 ≤ number) :
    (before ++ line :: after)[numberBeside before.length number - 1]? =
      (before ++ after)[number - 1]? := by
  rcases Nat.lt_or_ge before.length number with hbehind | hbefore
  · have hplace : number + 1 - 1 - before.length = number - 1 - before.length + 1 := by omega
    rw [numberBeside_of_lt hbehind, List.getElem?_append_right (by omega),
      List.getElem?_append_right (by omega), hplace, List.getElem?_cons_succ]
  · rw [numberBeside_of_le hbefore, List.getElem?_append_left (by omega),
      List.getElem?_append_left (by omega)]

/-- A line that begins with the marker is not blank. -/
theorem not_isMarked_of_allBlank {line : Text} (h : Text.allBlank line = true) :
    Directive.isMarked line = false := by
  cases line with
  | nil => rfl
  | cons c rest =>
    rw [Text.allBlank, List.all_cons, Bool.and_eq_true] at h
    have hc : c ≠ '-' := by
      rintro rfl
      simp [show isBlank '-' = false from by decide] at h
    simp [Directive.isMarked, Directive.marker, List.isPrefixOf, hc.symm]

namespace Assembly

variable {setting : Setting} {before after : List Text} {line : Text}
  {assembly : Assembly} {page : OpenPage}

/-! ## The same lines beside another one -/

/-- What has been written down names lines that have been taken: other numbers may be replaced. -/
theorem renumber_of_taken (htaken : (feedAll setting 1 before start).outcome = .ok assembly)
    {f : Nat → Nat} (hf : ∀ number ≤ before.length, f number = number) :
    assembly.renumber f start = assembly := by
  have hnumbers : ∀ k < before.length, f (1 + k) = f 1 + k := by
    intro k hk
    rw [hf (1 + k) (by omega), hf 1 (by omega)]
  have hlines := feedAll_relocate setting ⟨id, f⟩ start 1 before start hnumbers
  simp only [← renumber_eq_relocate] at hlines
  -- the lines have the same numbers as before
  have hrun : feedAll setting (f 1) before start = feedAll setting 1 before start := by
    cases before with
    | nil => rfl
    | cons first rest => rw [hf 1 (by simp)]
  obtain ⟨_, hsame, rfl⟩ := hlines.of_ok htaken
  have hstart : (feedAll setting (f 1) before start).outcome = .ok (assembly.renumber f start) :=
    hsame
  rw [hrun, htaken] at hstart
  exact (Except.ok.inj hstart).symm

/-- Lines behind others that have been taken do the same one line further down, when the assembly
before them is the same. -/
theorem feedAll_beside (htaken : (feedAll setting 1 before start).outcome = .ok assembly)
    (after : List Text) :
    Matches (fun failure failure' => failure' = failure.renumber (numberBeside before.length))
      (fun value value' => value' = value.renumber (numberBeside before.length) start)
      (feedAll setting (1 + before.length) after assembly)
      (feedAll setting (1 + before.length + 1) after assembly) := by
  -- the line behind the blank one has the next number, and so on
  have hfirst : numberBeside before.length (1 + before.length) = 1 + before.length + 1 :=
    numberBeside_of_lt (by omega)
  have hnumbers : ∀ k < after.length, numberBeside before.length (1 + before.length + k) =
      numberBeside before.length (1 + before.length) + k := by
    intro k _
    rw [hfirst, numberBeside_of_lt (by omega)]
    omega
  have hlines := feedAll_relocate setting ⟨id, numberBeside before.length⟩ start
    (1 + before.length) after assembly hnumbers
  simp only [← renumber_eq_relocate, hfirst] at hlines
  rw [renumber_of_taken htaken fun number => numberBeside_of_le] at hlines
  exact hlines

/-- The end of the lines is the same beside another line. -/
theorem finish_beside (before : List Text) (line : Text) (after : List Text) :
    Matches (fun failure failure' => failure' = failure.renumber (numberBeside before.length))
      (fun compiled compiled' => compiled' = ⟨compiled.document,
        compiled.warnings.map (Warning.renumber (numberBeside before.length))⟩)
      (finish setting (before ++ after) (reached setting (before ++ after)))
      (finish setting (before ++ line :: after)
        ((reached setting (before ++ after)).renumber (numberBeside before.length) start)) := by
  have hopened : ∀ page, (reached setting (before ++ after)).current = some page →
      (before ++ line :: after)[numberBeside before.length page.draft.openedAt - 1]? =
        (before ++ after)[page.draft.openedAt - 1]? := fun page hcurrent =>
    getElem?_numberBeside line (one_le_openedAt_reached hcurrent)
  rw [renumber_eq_relocate, Warning.renumber_eq_relocate]
  exact finish_relocate (r := ⟨id, numberBeside before.length⟩) setting start hopened

/-! ## The blank line -/

/-- Where no page is open, or the open page takes text, a blank line does nothing. -/
theorem feed_of_allBlank (hblank : Text.allBlank line = true)
    (hwelcome : ∀ page, assembly.current = some page →
      page.draft.page.postChecks = [] ∧ page.pending = none) (number : Nat) :
    feed setting number line assembly = pure assembly := by
  have hmarked := not_isMarked_of_allBlank hblank
  cases hcurrent : assembly.current with
  | none =>
    rw [feed_outside_text hcurrent hmarked, skip, hblank]
    rfl
  | some page =>
    obtain ⟨hchecks, hpending⟩ := hwelcome page hcurrent
    -- the guard for checks comes before that for blank lines, so both are needed here
    have haccepts : page.draft.acceptsText = true := Draft.acceptsText_iff.mpr hchecks
    have hassembly : { assembly with current := some page } = assembly := by rw [← hcurrent]
    simp only [feed, hcurrent, hmarked, hpending, feedText, haccepts, hblank, Bool.false_eq_true,
      Bool.not_true, ↓reduceIte, pure_bind, hassembly]

/-- With a blank line behind lines that have been taken, the lines that follow do the same, one
line further down. -/
theorem run_insert_of_allBlank (htaken : (feedAll setting 1 before start).outcome = .ok assembly)
    (hblank : Text.allBlank line = true)
    (hwelcome : ∀ page, assembly.current = some page →
      page.draft.page.postChecks = [] ∧ page.pending = none) (after : List Text) :
    Matches (fun failure failure' => failure' = failure.renumber (numberBeside before.length))
      (fun compiled compiled' => compiled' = ⟨compiled.document,
        compiled.warnings.map (Warning.renumber (numberBeside before.length))⟩)
      (run setting (before ++ after)) (run setting (before ++ line :: after)) := by
  -- before the blank line both runs are the same
  have hfront : Matches (fun failure failure' : Failure =>
      failure' = failure.renumber (numberBeside before.length)) Eq
      (feedAll setting 1 before start) (feedAll setting 1 before start) := by
    refine ⟨rfl, ?_⟩
    rw [htaken]
    exact .ok rfl
  rw [run, run, feedAll_append, feedAll_append, bind_assoc, bind_assoc]
  refine hfront.bind_of_ok ?_
  intro reached reached' hreached hsame
  subst hsame
  obtain rfl : assembly = reached := Except.ok.inj (htaken.symm.trans hreached)
  -- behind the blank line the assembly is the same, and the next line has the next number
  rw [feedAll, feed_of_allBlank hblank hwelcome]
  refine (feedAll_beside htaken after).bind_of_ok ?_
  intro last last' hlast hlast'
  subst hlast'
  -- the assembly behind all lines is the one that the lines lead to
  have hall : (feedAll setting 1 (before ++ after) start).outcome = .ok last := by
    rw [feedAll_append, outcome_bind_of_ok htaken]
    exact hlast
  obtain ⟨-, rfl⟩ := feedAll_start_eq_ok.mp hall
  exact finish_beside before line after

/-- Behind a post-check a blank line is refused, whatever follows it. -/
theorem run_insert_of_postChecks
    (htaken : (feedAll setting 1 before start).outcome = .ok assembly)
    (hblank : Text.allBlank line = true) (hcurrent : assembly.current = some page)
    (hchecks : page.draft.page.postChecks ≠ []) (after : List Text) :
    (run setting (before ++ line :: after)).outcome =
      .error (failureAt setting (1 + before.length) line .textAfterPostCheck) := by
  have hsound := sound_of_feedAll_eq_ok htaken
  -- the sound assembly refuses every line of text here, and a blank line is one
  have hrefused : (feed setting (1 + before.length) line assembly).outcome =
      .error .textAfterPostCheck :=
    hsound.feed_eq_textAfterPostCheck_iff.mpr
      ⟨not_isMarked_of_allBlank hblank, page, hcurrent, hchecks⟩
  exact run_eq_error_iff.mpr (.inl ⟨before, line, after, assembly, _, rfl, htaken, hrefused, rfl⟩)

end Assembly

/-- Blank lines are neutral where text is welcome, and refused behind a post-check. Where no page is
open, or the open page has neither a post-check nor a block that waits, a blank line more changes
nothing but the numbers of the lines behind it; on a page with a post-check it is the failure. -/
theorem run_blank (setting : Setting) (before after : List Text) (line : Text)
    (assembly : Assembly) (hblank : Text.allBlank line = true)
    (htaken : (Assembly.feedAll setting 1 before Assembly.start).outcome = .ok assembly) :
    ((∀ page, assembly.current = some page →
        page.draft.page.postChecks = [] ∧ page.pending = none) →
      (∀ compiled, (Assembly.run setting (before ++ after)).outcome = .ok compiled →
        (Assembly.run setting (before ++ line :: after)).outcome =
          .ok ⟨compiled.document,
            compiled.warnings.map (Warning.renumber (numberBeside before.length))⟩) ∧
      (∀ failure, (Assembly.run setting (before ++ after)).outcome = .error failure →
        (Assembly.run setting (before ++ line :: after)).outcome =
          .error (failure.renumber (numberBeside before.length))) ∧
      (Assembly.run setting (before ++ line :: after)).reads =
        (Assembly.run setting (before ++ after)).reads) ∧
    (∀ page, assembly.current = some page → page.draft.page.postChecks ≠ [] →
      (Assembly.run setting (before ++ line :: after)).outcome =
        .error ⟨⟨setting.options.fileName, before.length + 1⟩, line, .textAfterPostCheck⟩) := by
  refine ⟨fun hwelcome => ?_, fun page hcurrent hchecks => ?_⟩
  -- both parts of a match are needed: what comes of it, and what is read
  · have hinsert := Assembly.run_insert_of_allBlank htaken hblank hwelcome after
    refine ⟨?_, ?_, hinsert.reads.symm⟩
    · intro compiled hrun
      obtain ⟨_, hok, rfl⟩ := hinsert.of_ok hrun
      exact hok
    · intro failure hrun
      obtain ⟨_, herror, rfl⟩ := hinsert.of_error hrun
      exact herror
  · rw [Nat.add_comm]
    exact Assembly.run_insert_of_postChecks htaken hblank hcurrent hchecks after

/-- A line of a no-break space on a page with text, before a second page that is left open and
before a marker too many; and the same line behind a post-check. -/
theorem run_blank_verbatim :
    (Assembly.run (.verbatim {}) ["Ho".toList, "-> START PAGE".toList, "Hi".toList,
        "\u00a0".toList, "-> START PAGE".toList, "Ha".toList]).outcome =
      .ok ⟨⟨[⟨[], "Hi".toList, [], none⟩, ⟨[], "Ha".toList, [], none⟩]⟩,
        [.contentOutsidePage ⟨none, 1⟩, .nestedStartPage ⟨none, 5⟩ 2,
          .unterminatedPage ⟨none, 5⟩]⟩ ∧
    (Assembly.run (.verbatim {}) ["Ho".toList, "-> START PAGE".toList, "Hi".toList,
        "\u00a0".toList, "-> END PAGE".toList, "-> END PAGE".toList]).outcome =
      .error ⟨⟨none, 6⟩, "-> END PAGE".toList, .unexpectedEndPage⟩ ∧
    (Assembly.run (.verbatim {}) ["-> START PAGE".toList, "-> COMMANDWAIT ls".toList,
        "\u00a0".toList, "-> END PAGE".toList]).outcome =
      .error ⟨⟨none, 3⟩, "\u00a0".toList, .textAfterPostCheck⟩ := by
  have htext : (Assembly.feedAll (.verbatim {}) 1
      ["Ho".toList, "-> START PAGE".toList, "Hi".toList] Assembly.start).outcome =
      .ok ⟨some ⟨⟨2, ⟨[], "Hi".toList, [], none⟩⟩, none, none⟩, [],
        [.contentOutsidePage ⟨none, 1⟩]⟩ := by
    rfl
  have hcheck : (Assembly.feedAll (.verbatim {}) 1
      ["-> START PAGE".toList, "-> COMMANDWAIT ls".toList] Assembly.start).outcome =
      .ok ⟨some ⟨⟨1, ⟨[], [], [.commandWait "ls".toList], none⟩⟩, none, none⟩, [], []⟩ := by
    rfl
  -- the page that is open has text alone
  have hwelcome : ∀ page : OpenPage,
      some (⟨⟨2, ⟨[], "Hi".toList, [], none⟩⟩, none, none⟩ : OpenPage) = some page →
        page.draft.page.postChecks = [] ∧ page.pending = none := by
    intro page hpage
    cases hpage
    exact ⟨rfl, rfl⟩
  refine ⟨?_, ?_, ?_⟩
  · exact ((run_blank (.verbatim {}) _ ["-> START PAGE".toList, "Ha".toList] "\u00a0".toList _
      (by decide) htext).1 hwelcome).1 _ rfl
  · exact ((run_blank (.verbatim {}) _ ["-> END PAGE".toList, "-> END PAGE".toList]
      "\u00a0".toList _ (by decide) htext).1 hwelcome).2.1 _ rfl
  · exact (run_blank (.verbatim {}) _ ["-> END PAGE".toList] "\u00a0".toList _
      (by decide) hcheck).2 _ rfl (List.cons_ne_nil _ _)

end TutorialPages
