import TutorialPages.Proofs.Assembly.Failing
import TutorialPages.Proofs.Assembly.Reading
import TutorialPages.Proofs.Document.Compiled

/-!
# What compiling a document reads

The files may change while a document is compiled, since each reading is made when its line is
taken. So files are given for each line, and compiling with files that stay the same is a case of
this. Every line makes one reading at most, and its answer goes where the line stands; no answer is
kept for a later line.
-/

namespace TutorialPages

open Layout Traced

/-- The files as each line of a document finds them. -/
abbrev FileHistory := Nat → FileSource

/-- The setting in which the line with the given number is taken. -/
def Setting.during (setting : Setting) (history : FileHistory) (number : Nat) : Setting :=
  { setting with files := history number }

namespace Assembly

/-- Takes lines, each with the files as it finds them. -/
def feedAllDuring (setting : Setting) (history : FileHistory) (number : Nat) :
    List Text → Assembly → Traced Failure Assembly
  | [], assembly => pure assembly
  | line :: rest, assembly => do
    let assembly ← (feed (setting.during history number) number line assembly).mapError
      (failureAt setting number line)
    feedAllDuring setting history (number + 1) rest assembly

end Assembly

/-- Compiles a document whose lines find different files. -/
def compileDuring (setting : Setting) (history : FileHistory) (content : Text) :
    Traced Failure Compiled := do
  let assembly ← Assembly.feedAllDuring setting history 1 (Text.lines content) .start
  Assembly.finish setting (Text.lines content) assembly

namespace Assembly

variable {setting : Setting} {history history' : FileHistory} {number : Nat} {line : Text}
  {before lines : List Text} {assembly next : Assembly}

/-- Where the files stay the same, lines are taken as always. -/
theorem feedAllDuring_const (setting : Setting) (files : FileSource) (number : Nat)
    (lines : List Text) (assembly : Assembly) :
    feedAllDuring setting (fun _ => files) number lines assembly =
      feedAll { setting with files } number lines assembly := by
  induction lines generalizing number assembly with
  | nil => rfl
  | cons line rest ih =>
    simp only [feedAllDuring, feedAll, ih]
    rfl

/-! ## The readings of a run -/

/-- What a run over lines reads when other lines come before. -/
structure RunReads (setting : Setting) (history : FileHistory) (before lines : List Text)
    (assembly : Assembly) (made : List PlacedRead) : Prop where
  reads : (feedAllDuring setting history (1 + before.length) lines assembly).reads =
    made.map PlacedRead.read
  /-- When all lines are taken, each has made its reading. -/
  taken : ∀ next,
    (feedAllDuring setting history (1 + before.length) lines assembly).outcome = .ok next →
      made = linesReads setting before lines ∧ next.Follows setting (before ++ lines) ∧
        TakesUp setting.base history made assembly next ∧
        ∀ earlier line later, lines = earlier ++ line :: later →
          embedsImage setting (before ++ earlier) line = true →
            (Image.fileName? line).isSome = true
  /-- When a line is refused, those before it have made their readings, and so has the line unless
  it was refused because of the text on its page. -/
  refused : ∀ failure,
    (feedAllDuring setting history (1 + before.length) lines assembly).outcome = .error failure →
      ∃ earlier line later problem own, lines = earlier ++ line :: later ∧
        failure = failureAt setting (1 + (before ++ earlier).length) line problem ∧
        made = linesReads setting before earlier ++ own ∧
        (own = (lineRead? setting (before ++ earlier) line).toList ∨
          own = [] ∧ problem.IsOfText)
  /-- Only the answers to these readings count. -/
  determined : ∀ history',
    (∀ placed ∈ made, (history placed.number).AnswersAlike (history' placed.number) placed.read) →
      feedAllDuring setting history' (1 + before.length) lines assembly =
        feedAllDuring setting history (1 + before.length) lines assembly

theorem reads_feed_during (hfollows : assembly.Follows setting before) :
    (feed (setting.during history number) number line assembly).reads =
        (lineRead? setting before line).toList.map PlacedRead.read ∨
      (feed (setting.during history number) number line assembly).reads = [] ∧
        ∃ problem, (feed (setting.during history number) number line assembly).outcome =
          .error problem ∧ problem.IsOfText := by
  have hfollows' : assembly.Follows (setting.during history number) before :=
    (follows_files (history number)).mpr hfollows
  rw [← lineRead?_files setting (history number)]
  exact reads_feed hfollows'

theorem taken_of_feed_during (hfollows : assembly.Follows setting before)
    (h : (feed (setting.during history (1 + before.length)) (1 + before.length) line
      assembly).outcome = .ok next) :
    next.Follows setting (before ++ [line]) ∧
      TakesUp setting.base history (lineRead? setting before line).toList assembly next ∧
      (embedsImage setting before line = true → (Image.fileName? line).isSome = true) := by
  have hfollows' : assembly.Follows (setting.during history (1 + before.length)) before :=
    (follows_files _).mpr hfollows
  obtain ⟨hnext, htakesUp, hnamed⟩ := taken_of_feed_eq_ok hfollows' h
  rw [Setting.during, lineRead?_files] at htakesUp
  refine ⟨(follows_files _).mp hnext, htakesUp.congr fun placed hplaced => ?_, ?_⟩
  · rw [number_of_lineRead? (Option.mem_toList.mp hplaced)]
  · rwa [Setting.during, embedsImage_files] at hnamed

/-- The line goes on in the same way when its reading gets the same answer. -/
theorem feed_during_eq (hanswers : ∀ read ∈ (feed (setting.during history number) number line
      assembly).reads, (history number).AnswersAlike (history' number) read) :
    feed (setting.during history' number) number line assembly =
      feed (setting.during history number) number line assembly :=
  dependsOnReads_feed setting number line assembly (history number) (history' number) hanswers

theorem runReads_nil (hfollows : assembly.Follows setting before) :
    RunReads setting history before [] assembly [] where
  reads := rfl
  taken next h := by
    obtain rfl := outcome_pure_eq_ok.mp h
    refine ⟨rfl, by rwa [List.append_nil], .of_adds_nil (.refl _), ?_⟩
    -- where there are no lines, there is none that embeds an image
    intro earlier line later hlines
    simp at hlines
  refused failure h := by cases h
  determined history' _ := rfl

/-- All answers to the reading of a line come from the files as this line finds them. -/
theorem answers_of_lineRead? {own : List PlacedRead}
    (hown : own = (lineRead? setting before line).toList ∨ own = [])
    (hanswers : ∀ placed ∈ own,
      (history placed.number).AnswersAlike (history' placed.number) placed.read) :
    ∀ read ∈ own.map PlacedRead.read,
      (history (1 + before.length)).AnswersAlike (history' (1 + before.length)) read := by
  intro read hread
  obtain ⟨placed, hplaced, rfl⟩ := List.mem_map.mp hread
  have hanswer := hanswers placed hplaced
  rcases hown with rfl | rfl
  -- the number of a reading is that of the line being fed
  · rwa [number_of_lineRead? (Option.mem_toList.mp hplaced)] at hanswer
  · cases hplaced

/-- A line that is refused ends the run. -/
theorem exists_runReads_of_refused (hfollows : assembly.Follows setting before) {problem : Problem}
    (rest : List Text)
    (hstep : (feed (setting.during history (1 + before.length)) (1 + before.length) line
      assembly).outcome = .error problem) :
    ∃ made, RunReads setting history before (line :: rest) assembly made := by
  have herror := outcome_mapError_eq_error.mpr
    ⟨problem, hstep, (rfl : _ = failureAt setting (1 + before.length) line problem)⟩
  have hbind : ∀ next : Assembly → Traced Failure Assembly, ((feed (setting.during history
      (1 + before.length)) (1 + before.length) line assembly).mapError
        (failureAt setting (1 + before.length) line) >>= next).outcome =
          .error (failureAt setting (1 + before.length) line problem) :=
    -- what the rest does after the failure does not matter
    fun next => outcome_bind_eq_error.mpr (.inl herror)
  -- the line has made its reading, or none at all
  obtain ⟨own, hreads, hown⟩ : ∃ own : List PlacedRead,
      (feed (setting.during history (1 + before.length)) (1 + before.length) line
        assembly).reads = own.map PlacedRead.read ∧
      (own = (lineRead? setting before line).toList ∨ own = [] ∧ problem.IsOfText) := by
    rcases reads_feed_during hfollows with hmade | ⟨hnone, problem', hproblem', htext⟩
    · exact ⟨_, hmade, .inl rfl⟩
    · rw [hstep] at hproblem'
      obtain rfl := Except.error.inj hproblem'
      exact ⟨[], hnone, .inr ⟨rfl, htext⟩⟩
  refine ⟨own, ?_, ?_, ?_, ?_⟩
  · rw [feedAllDuring, reads_bind_of_error herror, reads_mapError, hreads]
  -- the run fails, so there is no state behind these lines
  · intro next hnext
    rw [feedAllDuring, hbind] at hnext
    cases hnext
  · intro failure hfailure
    rw [feedAllDuring, hbind] at hfailure
    obtain rfl := Except.error.inj hfailure
    refine ⟨[], line, rest, problem, own, rfl, by rw [List.append_nil], rfl, ?_⟩
    rwa [List.append_nil]
  · intro history' hanswers
    have hsame := feed_during_eq (hreads ▸ answers_of_lineRead? (hown.imp_right And.left) hanswers)
    rw [feedAllDuring, feedAllDuring, hsame]
    -- the other files lead to the same failure, and nothing comes after it
    refine bind_congr_of_ok fun next hnext => ?_
    rw [herror] at hnext
    cases hnext

/-- A line that is taken hands over to the next. -/
theorem runReads_cons (hfollows : assembly.Follows setting before) {rest : List Text}
    {made : List PlacedRead}
    (hstep : (feed (setting.during history (1 + before.length)) (1 + before.length) line
      assembly).outcome = .ok next)
    (hrest : RunReads setting history (before ++ [line]) rest next made) :
    RunReads setting history before (line :: rest) assembly
      ((lineRead? setting before line).toList ++ made) := by
  have hnumber : 1 + (before ++ [line]).length = 1 + before.length + 1 := by
    rw [List.length_append, List.length_singleton]
    omega
  have hok : ((feed (setting.during history (1 + before.length)) (1 + before.length) line
      assembly).mapError (failureAt setting (1 + before.length) line)).outcome = .ok next :=
    outcome_mapError_eq_ok.mpr hstep
  obtain ⟨-, htakesUp, hnamed⟩ := taken_of_feed_during hfollows hstep
  have hown : (feed (setting.during history (1 + before.length)) (1 + before.length) line
      assembly).reads = (lineRead? setting before line).toList.map PlacedRead.read := by
    rcases reads_feed_during hfollows with hmade | ⟨-, problem, hproblem, -⟩
    · exact hmade
    · rw [hstep] at hproblem
      cases hproblem
  obtain ⟨hreads, htaken, hrefused, hdetermined⟩ := hrest
  rw [hnumber] at hreads htaken hrefused hdetermined
  refine ⟨?_, ?_, ?_, ?_⟩
  -- the reading of the line comes before those of the rest
  · rw [feedAllDuring, reads_bind_of_ok hok, reads_mapError, hown, hreads, List.map_append]
  · intro last hlast
    rw [feedAllDuring, outcome_bind_of_ok hok] at hlast
    obtain ⟨rfl, hlastFollows, hlastTakesUp, hlastNamed⟩ := htaken last hlast
    refine ⟨rfl, ?_, htakesUp.trans hlastTakesUp, ?_⟩
    · rwa [List.append_assoc, List.singleton_append] at hlastFollows
    · intro earlier given later hlines hembeds
      cases earlier with
      -- the line itself, or one of the rest
      | nil =>
        obtain ⟨rfl, rfl⟩ := List.cons.inj hlines
        exact hnamed (by rwa [List.append_nil] at hembeds)
      | cons first earlier =>
        obtain ⟨rfl, rfl⟩ := List.cons.inj hlines
        exact hlastNamed earlier given later rfl
          (by rwa [List.append_assoc, List.singleton_append])
  -- when the rest fails, the line has made its reading before
  · intro failure hfailure
    rw [feedAllDuring, outcome_bind_of_ok hok] at hfailure
    obtain ⟨earlier, given, later, problem, own, rfl, rfl, rfl, hlast⟩ := hrefused failure hfailure
    have hplace : before ++ [line] ++ earlier = before ++ line :: earlier := by
      rw [List.append_assoc, List.singleton_append]
    refine ⟨line :: earlier, given, later, problem, own, rfl, by rw [hplace], ?_, ?_⟩
    · rw [linesReads, List.append_assoc]
    · rwa [hplace] at hlast
  -- the same answers lead to the same state behind the line, and from there the rest is the same
  · intro history' hanswers
    rw [List.forall_mem_append] at hanswers
    have hsame := feed_during_eq (hown ▸ answers_of_lineRead? (.inl rfl) hanswers.1)
    rw [feedAllDuring, feedAllDuring, hsame]
    refine bind_congr_of_ok fun middle hmiddle => ?_
    rw [hok] at hmiddle
    obtain rfl := Except.ok.inj hmiddle
    exact hdetermined history' hanswers.2

theorem exists_runReads (setting : Setting) (history : FileHistory) (before lines : List Text)
    (assembly : Assembly) (hfollows : assembly.Follows setting before) :
    ∃ made, RunReads setting history before lines assembly made := by
  induction lines generalizing before assembly with
  | nil => exact ⟨[], runReads_nil hfollows⟩
  | cons line rest ih =>
    cases hstep : (feed (setting.during history (1 + before.length)) (1 + before.length) line
      assembly).outcome with
    | error problem => exact exists_runReads_of_refused hfollows rest hstep
    | ok next =>
      obtain ⟨hnext, -, -⟩ := taken_of_feed_during hfollows hstep
      obtain ⟨made, hmade⟩ := ih (before ++ [line]) next hnext
      exact ⟨_, runReads_cons hfollows hstep hmade⟩

theorem reads_finish : (finish setting lines assembly).reads = [] := by
  unfold finish
  split
  · rfl
  · rw [reads_bind_of_silent fun _ => rfl, reads_mapError, reads_closeLast]

end Assembly

variable {setting : Setting} {history : FileHistory} {content : Text}

/-! ## The readings of a document -/

/-- The given readings, in their order, are those of compiling a document. -/
structure CompileReads (setting : Setting) (history : FileHistory) (content : Text)
    (made : List PlacedRead) : Prop where
  reads : (compileDuring setting history content).reads = made.map PlacedRead.read
  /-- A document that compiles has made the readings of all its lines. The text files that its
  commands embed are the answers to the readings of text, one by one and in order, and its images
  are the answers to the readings of bytes. No line embeds an image without a name. -/
  compiled : ∀ compiled, (compileDuring setting history content).outcome = .ok compiled →
    made = linesReads setting [] (Text.lines content) ∧
    List.Forall₂ (fun placed => EmbedsText setting.base (history placed.number) placed)
      (made.filter (·.mode = .text)) (compiled.document.pages.flatMap Page.embeddedFiles) ∧
    List.Forall₂ (fun placed => EmbedsBytes setting.base (history placed.number) placed)
      (made.filter (·.mode = .bytes)) (compiled.document.pages.flatMap Page.images) ∧
    ∀ before line after, Text.lines content = before ++ line :: after →
      embedsImage setting before line = true → (Image.fileName? line).isSome = true
  /-- A document that fails on a line has made the readings of the lines before, and that of the
  line itself unless the line was refused because of the text on its page. A document that fails
  behind its last line has made the readings of all lines. -/
  failed : ∀ failure, (compileDuring setting history content).outcome = .error failure →
    (∃ before line after problem own, Text.lines content = before ++ line :: after ∧
      failure = Assembly.failureAt setting (1 + before.length) line problem ∧
      made = linesReads setting [] before ++ own ∧
      (own = (lineRead? setting before line).toList ∨ own = [] ∧ problem.IsOfText)) ∨
    leavesOpen setting.files setting.base (Text.lines content) = true ∧
      made = linesReads setting [] (Text.lines content)
  /-- Files that give the same answers to these readings lead to the same events and outcome. -/
  determined : ∀ history',
    (∀ placed ∈ made, (history placed.number).AnswersAlike (history' placed.number) placed.read) →
      compileDuring setting history' content = compileDuring setting history content

/-- What the lines have read is all that is read, since the end of a document reads nothing. -/
theorem compileReads_of_runReads {made : List PlacedRead}
    (h : Assembly.RunReads setting history [] (Text.lines content) .start made) :
    CompileReads setting history content made := by
  obtain ⟨hreads, htaken, hrefused, hdetermined⟩ := h
  have hstart : 1 + ([] : List Text).length = 1 := rfl
  rw [hstart] at hreads htaken hrefused hdetermined
  refine ⟨?_, ?_, ?_, ?_⟩
  · rw [compileDuring, reads_bind_of_silent fun _ => Assembly.reads_finish, hreads]
  · intro compiled hcompiled
    obtain ⟨last, hlast, hfinish⟩ := outcome_bind_eq_ok.mp hcompiled
    obtain ⟨hmade, hfollows, ⟨files, images, hadds, hfiles, himages⟩, hnamed⟩ := htaken last hlast
    obtain ⟨hembedded, himagesEmbedded⟩ := Assembly.embedded_of_finish_eq_ok hfollows hfinish
    -- nothing has been embedded before the first line
    rw [hadds.files, Assembly.start] at hembedded
    rw [hadds.images, Assembly.start] at himagesEmbedded
    refine ⟨hmade, ?_, ?_, hnamed⟩
    · rw [hembedded]
      exact hfiles
    · rw [himagesEmbedded]
      exact himages
  -- a failure comes from a line, or from the end with a page still open
  · intro failure hfailure
    rcases outcome_bind_eq_error.mp hfailure with hlines | ⟨last, hlast, hfinish⟩
    · exact .inl (hrefused failure hlines)
    · obtain ⟨hmade, hfollows, -⟩ := htaken last hlast
      obtain ⟨page, -, hcurrent, -⟩ := Assembly.finish_eq_error.mp hfinish
      obtain ⟨body, hopen, -⟩ := hfollows.openBody?_of_some hcurrent
      refine .inr ⟨?_, hmade⟩
      rw [leavesOpen_eq 1, ← List.nil_append (Text.lines content), hopen]
      rfl
  · intro history' hanswers
    rw [compileDuring, compileDuring, hdetermined history' hanswers]

theorem compileDuring_const (setting : Setting) (files : FileSource) (content : Text) :
    compileDuring setting (fun _ => files) content = compile { setting with files } content := by
  rw [compileDuring, Assembly.feedAllDuring_const]
  rfl

theorem exists_compileReads (setting : Setting) (history : FileHistory) (content : Text) :
    ∃ made, CompileReads setting history content made := by
  obtain ⟨made, hmade⟩ := Assembly.exists_runReads setting history [] (Text.lines content) .start
    (Assembly.start_follows setting)
  exact ⟨made, compileReads_of_runReads hmade⟩

/-- Compiling takes from the files only the answers to its readings. -/
theorem dependsOnReads_compile (setting : Setting) (content : Text) :
    DependsOnReads fun files => compile { setting with files } content := by
  intro files files' hanswers
  obtain ⟨made, hmade⟩ := exists_compileReads setting (fun _ => files) content
  have hreads := hmade.reads
  rw [compileDuring_const] at hreads
  have hsame := hmade.determined (fun _ => files') fun placed hplaced =>
    hanswers placed.read (hreads ▸ List.mem_map_of_mem hplaced)
  rwa [compileDuring_const, compileDuring_const] at hsame

/-- A document that compiles has made the readings that its lines ask for. -/
theorem reads_of_compile_eq_ok {compiled : Compiled}
    (h : (compile setting content).outcome = .ok compiled) :
    (compile setting content).reads =
      (linesReads setting [] (Text.lines content)).map PlacedRead.read := by
  obtain ⟨made, hmade⟩ := exists_compileReads setting (fun _ => setting.files) content
  have hreads := hmade.reads
  have hcompiled := hmade.compiled compiled
  rw [compileDuring_const] at hreads hcompiled
  obtain ⟨rfl, -⟩ := hcompiled h
  exact hreads

/-- Compiling a document makes the readings that its lines ask for, in the order of the lines, and
each line takes up the answer to its own reading, whatever other lines have read. Where the files
stay the same, this is the compiling of the document with these files, and other files that give
the same answers to its readings do the same. -/
theorem compile_reads (setting : Setting) (history : FileHistory) (content : Text) :
    (∃ made, CompileReads setting history content made) ∧
    (∀ files, compileDuring setting (fun _ => files) content =
      compile { setting with files } content) ∧
    DependsOnReads fun files => compile { setting with files } content := by
  refine ⟨?_, ?_, ?_⟩
  · exact exists_compileReads setting history content
  · exact fun files => compileDuring_const setting files content
  · exact dependsOnReads_compile setting content

/-- Under every name each line finds a file that holds the number of the line, as text or as a
byte. -/
def FileHistory.numbered : FileHistory :=
  fun number => ⟨fun _ => .ok (Text.ofNat number), fun _ => .ok [.ofNat number]⟩

/-- A file that two lines name is read twice, and each embeds what it has found; so does the image
between them. -/
theorem compile_reads_numbered :
    linesReads (.verbatim {}) []
        ["-> START PAGE".toList, "-> APPLY a".toList, "![](b)".toList, "-> APPLY a".toList] =
      [⟨2, .text, "a".toList⟩, ⟨3, .bytes, "b".toList⟩, ⟨4, .text, "a".toList⟩] ∧
    (compileDuring (.verbatim {}) .numbered
        "-> START PAGE\n-> APPLY a\n![](b)\n-> APPLY a".toList).reads =
      [(.text, "a".toList), (.bytes, "b".toList), (.text, "a".toList)] ∧
    List.Forall₂ (fun placed => EmbedsText [] (FileHistory.numbered placed.number) placed)
      [⟨2, .text, "a".toList⟩, ⟨4, .text, "a".toList⟩]
      [⟨"a".toList, "2".toList⟩, ⟨"a".toList, "4".toList⟩] ∧
    List.Forall₂ (fun placed => EmbedsBytes [] (FileHistory.numbered placed.number) placed)
      [⟨3, .bytes, "b".toList⟩] [⟨"b".toList, "Aw==".toList⟩] := by
  obtain ⟨⟨made, hmade⟩, -, -⟩ := compile_reads (.verbatim {}) .numbered
    "-> START PAGE\n-> APPLY a\n![](b)\n-> APPLY a".toList
  have hcompiled : (compileDuring (.verbatim {}) .numbered
      "-> START PAGE\n-> APPLY a\n![](b)\n-> APPLY a".toList).outcome =
        .ok ⟨⟨[⟨[.apply ⟨"a".toList, "2".toList⟩, .apply ⟨"a".toList, "4".toList⟩],
          "![](b)".toList, [], some [⟨"b".toList, "Aw==".toList⟩]⟩]⟩,
          [.unterminatedPage ⟨none, 1⟩]⟩ := by
    rfl
  obtain ⟨rfl, hfiles, himages, -⟩ := hmade.compiled _ hcompiled
  exact ⟨rfl, hmade.reads, hfiles, himages⟩

end TutorialPages
