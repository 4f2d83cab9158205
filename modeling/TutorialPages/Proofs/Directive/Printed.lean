import TutorialPages.Proofs.Directive.Condition

/-!
# Directives as they are written

Every directive has one line that states it plainly: the arrow, its words in capital letters, single
spaces. `Directive.print` writes that line. A directive that can be read from any line at all is
*canonical*: its names are words and its texts are words with single spaces between them. What is
canonical is read back from the line that is written for it, and nothing else is ever read.
-/

namespace TutorialPages

/-! ## Writing a directive -/

/-- The arguments that state a condition. -/
def Condition.arguments (condition : Condition) : List Text :=
  let place : List Text :=
    match condition.inNamespace with
    | some place => [Directive.namespaceWord, place]
    | none => []
  [Vocabulary.word condition.kind, "NAME", condition.target, "COUNT",
    Vocabulary.word condition.operator, Text.ofInt condition.value.toInt] ++ place

/-- What is written behind the method of a pre-command. -/
def PreCommand.argumentText : PreCommand → Text
  | .apply file | .includeFile file => file.name
  | .execCommand command => command
  | .wait condition => Text.joinWith [' '] condition.arguments

/-- What is written behind the method of a post-check. -/
def PostCheck.argumentText : PostCheck → Text
  | .commandWait text | .fileCheck text | .checkCommandOut text => text
  | .check condition => Text.joinWith [' '] condition.arguments

namespace Directive

/-- The line of a method with what stands behind it. -/
def commandLine (method : Method) (argumentText : Text) : Text :=
  marker ++ ' ' :: (method.word ++ ' ' :: argumentText)

/-- The line that states a directive plainly. -/
def print : Directive → Text
  | .startPage => "-> START PAGE"
  | .endPage => "-> END PAGE"
  | .pre command => commandLine command.method command.argumentText
  | .post check => commandLine check.method check.argumentText

/-- The file that a directive embeds. -/
def file? : Directive → Option EmbeddedFile
  | .pre (.apply file) | .pre (.includeFile file) => some file
  | _ => none

end Directive

example : Directive.print (.post (.check ⟨.pod, "web".toList, .lessThan, -1, none⟩)) =
    "-> CHECK POD NAME web COUNT LESSTHAN -1".toList := by
  decide

/-! ## Canonical directives -/

/-- Words with single spaces between them, and at least one of them. -/
def Text.IsPhrase (text : Text) : Prop :=
  ∃ words, words ≠ [] ∧ (∀ word ∈ words, IsWord word) ∧ text = joinWith [' '] words

/-- The names in a condition are words. -/
structure Condition.Canonical (condition : Condition) : Prop where
  target : Text.IsWord condition.target
  inNamespace : ∀ place, condition.inNamespace = some place → Text.IsWord place

/-- Names are words and shell text is a phrase. -/
def PreCommand.Canonical : PreCommand → Prop
  | .apply file | .includeFile file => Text.IsWord file.name
  | .execCommand command => Text.IsPhrase command
  | .wait condition => condition.Canonical

/-- What is checked for is a phrase or a condition between words. -/
def PostCheck.Canonical : PostCheck → Prop
  | .commandWait text | .fileCheck text | .checkCommandOut text => Text.IsPhrase text
  | .check condition => condition.Canonical

/-- A directive as it can stand on a line. A page marker always can. -/
def Directive.Canonical : Directive → Prop
  | .startPage | .endPage => True
  | .pre command => command.Canonical
  | .post check => check.Canonical

/-- A phrase is put together again from its words. -/
theorem Text.IsPhrase.words_ne_nil_and_join {text : Text} (h : text.IsPhrase) :
    Text.words text ≠ [] ∧ Text.joinWith [' '] (Text.words text) = text := by
  obtain ⟨words, hne, hwords, rfl⟩ := h
  rw [Text.words_joinWith words hwords]
  exact ⟨hne, rfl⟩

/-- The words for a kind and an operator are words, and so are numbers and canonical names. -/
theorem Condition.Canonical.isWord {condition : Condition} (h : condition.Canonical) :
    ∀ word ∈ condition.arguments, Text.IsWord word := by
  -- the words that the vocabularies and the form bring along are words by inspection
  have hkind : ∀ kind : ResourceKind, Text.IsWord (Vocabulary.word kind) := by
    intro kind
    cases kind <;> decide
  have hoperator : ∀ operator : Operator, Text.IsWord (Vocabulary.word operator) := by
    intro operator
    cases operator <;> decide
  have hname : Text.IsWord "NAME".toList := by decide
  have hcount : Text.IsWord "COUNT".toList := by decide
  have hvalue := Text.isWord_ofInt condition.value.toInt
  intro word hword
  cases hplace : condition.inNamespace with
  | none =>
    simp only [Condition.arguments, hplace, List.append_nil, List.mem_cons, List.not_mem_nil,
      or_false] at hword
    -- without a namespace there are six words, in the order in which they are written
    rcases hword with rfl | rfl | rfl | rfl | rfl | rfl
    · exact hkind _
    · exact hname
    · exact h.target
    · exact hcount
    · exact hoperator _
    · exact hvalue
  | some place =>
    have hnamespace : Text.IsWord Directive.namespaceWord := by decide
    simp only [Condition.arguments, hplace, List.cons_append, List.nil_append, List.mem_cons,
      List.not_mem_nil, or_false] at hword
    rcases hword with rfl | rfl | rfl | rfl | rfl | rfl | rfl | rfl
    · exact hkind _
    · exact hname
    · exact h.target
    · exact hcount
    · exact hoperator _
    · exact hvalue
    · exact hnamespace
    · exact h.inNamespace _ hplace

namespace Directive

open Traced

variable {files : FileSource} {base : Path} {line : Text} {method : Method}
  {arguments : List Text} {directive : Directive}

/-! ## What is read from arguments -/

theorem spoken_eq_ok {absence : Problem} {text : Text} :
    spoken absence arguments = .ok text ↔
      arguments ≠ [] ∧ text = Text.joinWith [' '] arguments := by
  cases arguments with
  | nil => simp [spoken]
  | cons first others => simp [spoken, eq_comm]

/-- The file is that of the single argument, with the contents that the source has for it. -/
theorem embeddedFile_eq_ok {file : EmbeddedFile} :
    (embeddedFile files base method arguments).outcome = .ok file ↔
      arguments = [file.name] ∧ files.readText (Path.below base file.name) = .ok file.value := by
  obtain ⟨name, value⟩ := file
  match arguments with
  | [] => simp [embeddedFile]
  | _ :: _ :: _ => simp [embeddedFile]
  | [given] =>
    have hevent : (emit (.read .text (Path.below base given)) : Traced Problem Unit).outcome =
        .ok () := rfl
    rw [embeddedFile, outcome_bind_of_ok hevent]
    -- whether the source has the file is all that is left to decide
    cases hread : files.readText (Path.below base given) with
    | ok contents =>
      rw [outcome_pure]
      simp only [Except.ok.injEq, EmbeddedFile.mk.injEq, List.cons.injEq, and_true]
      constructor
      · rintro ⟨rfl, rfl⟩
        exact ⟨rfl, hread⟩
      · rintro ⟨rfl, hvalue⟩
        rw [hread] at hvalue
        exact ⟨rfl, Except.ok.inj hvalue⟩
    | error failure =>
      simp only [outcome_fail, reduceCtorEq, List.cons.injEq, and_true, false_iff, not_and]
      rintro rfl hvalue
      rw [hread] at hvalue
      cases hvalue

/-- A condition takes its names from its arguments as they stand. -/
theorem mem_of_condition_eq_ok {stated : Condition} (h : condition method arguments = .ok stated) :
    stated.target ∈ arguments ∧
      ∀ place, stated.inNamespace = some place → place ∈ arguments := by
  -- only one row of the table states a condition
  cases condition_eq_iff.mp h with
  | stated hplace hkind hoperator hvalue =>
    refine ⟨by simp, ?_⟩
    intro place hsome
    cases hplace with
    | nowhere => cases hsome
    | behind hword =>
      obtain rfl := Option.some.inj hsome
      simp

/-- The arguments that are written for a condition state it. -/
theorem condition_arguments (method : Method) (stated : Condition) :
    condition method stated.arguments = .ok stated := by
  -- the condition is read by the row of the table that has all its words
  obtain ⟨kind, target, operator, value, place⟩ := stated
  have hkind : Vocabulary.Names (Vocabulary.word kind) kind := by
    cases kind <;> rfl
  have hoperator : Vocabulary.Names (Vocabulary.word operator) operator := by
    cases operator <;> rfl
  have hvalue := Text.spells_ofInt value.toInt
  apply condition_eq_of_decided
  cases place with
  | none => exact .stated .nowhere hkind hoperator hvalue
  | some place => exact .stated (.behind (by decide)) hkind hoperator hvalue

/-- What words state is canonical, and an embedded file is one that the source has. -/
theorem canonical_of_ofArguments (hwords : ∀ word ∈ arguments, Text.IsWord word)
    (h : (ofArguments files base method arguments).outcome = .ok directive) :
    directive.Canonical ∧
      ∀ file, directive.file? = some file →
        files.readText (Path.below base file.name) = .ok file.value := by
  -- each of the three readers takes what it gives from the arguments, which are words
  have hfile : ∀ {file : EmbeddedFile}, (embeddedFile files base method arguments).outcome =
      .ok file → Text.IsWord file.name ∧
        files.readText (Path.below base file.name) = .ok file.value := by
    intro file hfile
    obtain ⟨harguments, hread⟩ := embeddedFile_eq_ok.mp hfile
    rw [harguments] at hwords
    exact ⟨hwords _ (List.mem_singleton_self _), hread⟩
  have hphrase : ∀ {absence : Problem} {text : Text}, spoken absence arguments = .ok text →
      text.IsPhrase := by
    intro absence text hspoken
    obtain ⟨hne, htext⟩ := spoken_eq_ok.mp hspoken
    exact ⟨arguments, hne, hwords, htext⟩
  have hcondition : ∀ {stated : Condition}, condition method arguments = .ok stated →
      stated.Canonical := by
    intro stated hstated
    obtain ⟨htarget, hplace⟩ := mem_of_condition_eq_ok hstated
    exact ⟨hwords _ htarget, fun place hsome => hwords _ (hplace place hsome)⟩
  -- each method wraps what one of the three readers gives
  cases method with
  | apply | includeFile =>
    obtain ⟨file, hread, hdirective⟩ := outcome_bind_eq_ok.mp h
    obtain rfl := outcome_pure_eq_ok.mp hdirective
    obtain ⟨hname, hvalue⟩ := hfile hread
    refine ⟨hname, ?_⟩
    rintro _ ⟨⟩
    exact hvalue
  | wait | check =>
    obtain ⟨stated, hread, hdirective⟩ := outcome_bind_eq_ok.mp h
    obtain rfl := outcome_pure_eq_ok.mp hdirective
    exact ⟨hcondition hread, fun file hsome => by cases hsome⟩
  | execCommand | commandWait | fileCheck | checkCommandOut =>
    obtain ⟨text, hread, hdirective⟩ := outcome_bind_eq_ok.mp h
    obtain rfl := outcome_pure_eq_ok.mp hdirective
    exact ⟨hphrase hread, fun file hsome => by cases hsome⟩

/-! ## What is read from a line -/

/-- A line whose words begin with that of a method states what its arguments state. -/
theorem read_eq_ok_of_words (h : Text.words (body line) = method.word :: arguments) :
    (read files base line).outcome = .ok directive ↔
      (ofArguments files base method arguments).outcome = .ok directive := by
  have hmethod : Text.sameWord method.word method.word = true := by simp [Text.sameWord]
  rw [outcome_read_of_words h (ofWord?_of_sameWord hmethod)]

/-- What is read from a line is canonical, and an embedded file is one that the source has. -/
theorem canonical_of_read (h : (read files base line).outcome = .ok directive) :
    directive.Canonical ∧
      ∀ file, directive.file? = some file →
        files.readText (Path.below base file.name) = .ok file.value := by
  unfold read at h
  dsimp only at h
  split at h
  -- a page marker holds nothing that could fail to be canonical
  · obtain rfl := outcome_pure_eq_ok.mp h
    exact ⟨trivial, fun file hsome => by cases hsome⟩
  · split at h
    · obtain rfl := outcome_pure_eq_ok.mp h
      exact ⟨trivial, fun file hsome => by cases hsome⟩
    · -- neither marker: the first word names a method, and the others are words too
      unfold ofWords at h
      split at h
      · cases h
      · next first arguments hwords =>
        split at h
        · cases h
        · simp only [outcome_bind_eq_ok, outcome_log_bind, outcome_pure_eq_ok] at h
          obtain ⟨stated, hstated, rfl⟩ := h
          refine canonical_of_ofArguments (fun word hword => ?_) hstated
          have hmem : word ∈ Text.words (body line) := by
            rw [hwords]
            exact List.mem_cons_of_mem first hword
          exact Text.isWord_of_mem_words hmem

/-! ## Reading what is written -/

/-- The words of a command line are that of the method and those behind it. -/
theorem words_body_commandLine (method : Method) (argumentText : Text) :
    Text.words (body (commandLine method argumentText)) =
      method.word :: Text.words argumentText := by
  have hbody : body (commandLine method argumentText) =
      Text.trim (' ' :: (method.word ++ ' ' :: argumentText)) := rfl
  have hword : Text.IsWord method.word := by
    cases method <;> decide
  rw [hbody, Text.words_trim, Text.words_cons_of_blank (by decide),
    Text.words_append_cons method.word (by decide), Text.words_of_isWord hword,
    List.singleton_append]

theorem spoken_words {text : Text} (h : text.IsPhrase) (absence : Problem) :
    spoken absence (Text.words text) = .ok text := by
  obtain ⟨hne, hjoin⟩ := h.words_ne_nil_and_join
  exact spoken_eq_ok.mpr ⟨hne, hjoin.symm⟩

theorem condition_words {stated : Condition} (h : stated.Canonical) (method : Method) :
    condition method (Text.words (Text.joinWith [' '] stated.arguments)) = .ok stated := by
  rw [Text.words_joinWith _ h.isWord]
  exact condition_arguments method stated

/-- The argument that is written for a pre-command states it. -/
theorem ofArguments_pre {command : PreCommand} (hcanonical : command.Canonical)
    (hfile : ∀ file, file? (.pre command) = some file →
      files.readText (Path.below base file.name) = .ok file.value) :
    (ofArguments files base command.method (Text.words command.argumentText)).outcome =
      .ok (.pre command) := by
  cases command with
  | apply file | includeFile file =>
    -- the name of a file is one word, so it is the single argument again
    have hwords : Text.words file.name = [file.name] := Text.words_of_isWord hcanonical
    have hread : ∀ method, (embeddedFile files base method (Text.words file.name)).outcome =
        .ok file :=
      fun method => embeddedFile_eq_ok.mpr ⟨hwords, hfile file rfl⟩
    exact outcome_bind_eq_ok.mpr ⟨file, hread _, rfl⟩
  | execCommand command =>
    exact outcome_bind_eq_ok.mpr ⟨command, spoken_words hcanonical _, rfl⟩
  | wait stated => exact outcome_bind_eq_ok.mpr ⟨stated, condition_words hcanonical _, rfl⟩

/-- The argument that is written for a post-check states it. -/
theorem ofArguments_post {check : PostCheck} (hcanonical : check.Canonical) :
    (ofArguments files base check.method (Text.words check.argumentText)).outcome =
      .ok (.post check) := by
  cases check with
  | commandWait text | fileCheck text | checkCommandOut text =>
    exact outcome_bind_eq_ok.mpr ⟨text, spoken_words hcanonical _, rfl⟩
  | check stated => exact outcome_bind_eq_ok.mpr ⟨stated, condition_words hcanonical _, rfl⟩

/-- A canonical directive is read back from the line that is written for it. -/
theorem read_print_of_canonical (hcanonical : directive.Canonical)
    (hfile : ∀ file, directive.file? = some file →
      files.readText (Path.below base file.name) = .ok file.value) :
    (read files base directive.print).outcome = .ok directive := by
  cases directive with
  | startPage => rfl
  | endPage => rfl
  | pre command =>
    have hwords := words_body_commandLine command.method command.argumentText
    exact (read_eq_ok_of_words hwords).mpr (ofArguments_pre hcanonical hfile)
  | post check =>
    have hwords := words_body_commandLine check.method check.argumentText
    exact (read_eq_ok_of_words hwords).mpr (ofArguments_post hcanonical)

/-- Writing and reading are inverse to each other on canonical directives, and only these are ever
read: a directive that is canonical, and whose file the source has, is read back from the line that
is written for it, and any directive that any line states is such a one. -/
theorem read_print (files : FileSource) (base : Path) :
    (∀ directive : Directive, directive.Canonical →
      (∀ file, directive.file? = some file →
        files.readText (Path.below base file.name) = .ok file.value) →
      (read files base directive.print).outcome = .ok directive) ∧
    ∀ line directive, (read files base line).outcome = .ok directive →
      directive.Canonical ∧ (read files base directive.print).outcome = .ok directive := by
  refine ⟨fun directive => read_print_of_canonical, ?_⟩
  -- what has been read is canonical, so the first part applies to it
  intro line directive hread
  obtain ⟨hcanonical, hfile⟩ := canonical_of_read hread
  exact ⟨hcanonical, read_print_of_canonical hcanonical hfile⟩

/-- A file behind loose spacing, where each file holds its own path, and a condition at the lower
limit of the numbers. -/
theorem read_print_apply_and_wait :
    (read ⟨.ok, fun _ => .ok []⟩ "lesson".toList "->\tApply  web.yaml ".toList).outcome =
        .ok (.pre (.apply ⟨"web.yaml".toList, "lesson/web.yaml".toList⟩)) ∧
      (read ⟨.ok, fun _ => .ok []⟩ "lesson".toList "-> APPLY web.yaml".toList).outcome =
        .ok (.pre (.apply ⟨"web.yaml".toList, "lesson/web.yaml".toList⟩)) ∧
      Canonical (.pre (.wait
        ⟨.replicaSet, "web".toList, .greaterThan, Int64.minValue, some "demo".toList⟩)) ∧
      (read ⟨.ok, fun _ => .ok []⟩ "lesson".toList ("-> WAIT REPLICASET NAME web COUNT " ++
          "GREATERTHAN -9223372036854775808 NAMESPACE demo").toList).outcome =
        .ok (.pre (.wait
          ⟨.replicaSet, "web".toList, .greaterThan, Int64.minValue, some "demo".toList⟩)) := by
  have hloose :
      (read ⟨.ok, fun _ => .ok []⟩ "lesson".toList "->\tApply  web.yaml ".toList).outcome =
        .ok (.pre (.apply ⟨"web.yaml".toList, "lesson/web.yaml".toList⟩)) := by
    rfl
  have hwait : Canonical (.pre (.wait
      ⟨.replicaSet, "web".toList, .greaterThan, Int64.minValue, some "demo".toList⟩)) := by
    refine ⟨by decide, ?_⟩
    rintro _ ⟨⟩
    decide
  have hline : print (.pre (.wait
      ⟨.replicaSet, "web".toList, .greaterThan, Int64.minValue, some "demo".toList⟩)) =
        ("-> WAIT REPLICASET NAME web COUNT " ++
          "GREATERTHAN -9223372036854775808 NAMESPACE demo").toList := by
    decide +kernel
  obtain ⟨hprinted, hread⟩ := read_print ⟨.ok, fun _ => .ok []⟩ "lesson".toList
  have hnumber := hprinted _ hwait fun file hsome => by cases hsome
  rw [hline] at hnumber
  exact ⟨hloose, (hread _ _ hloose).2, hwait, hnumber⟩

end Directive

end TutorialPages
