import TutorialPages.Proofs.Directive.Refusal

/-!
# Other spellings of a directive line

Two spellings of a line are read alike. Lines with the same words are, whatever stands between the
words: at most the text that is quoted when there is no method at all differs. And a condition does
not change with the case of the letters of its fixed words, nor with the two words that only make it
read well.
-/

namespace TutorialPages

open Traced

/-- The problem with the given text quoted, where it quotes a directive. -/
def Problem.quoting (text : Text) : Problem → Problem
  | .unknownDirective _ => .unknownDirective text
  | problem => problem

theorem Problem.IsOfArguments.quoting_eq {problem : Problem} (h : problem.IsOfArguments)
    (text : Text) : problem.quoting text = problem := by
  cases problem with
  | unknownDirective directive => exact h.elim
  | _ => rfl

/-- Two lists of arguments spell the same condition. The kind and the operator may change the case
of their ASCII letters, and so may the word for a namespace where there is one; the second and the
fourth argument may be any words. -/
inductive Condition.Respelled : List Text → List Text → Prop where
  | main {kind kind' operator operator' : Text} (second second' target fourth fourth' value : Text)
      (surplus : List Text) (hkind : Text.sameWord kind kind' = true)
      (hoperator : Text.sameWord operator operator' = true) :
      Respelled (kind :: second :: target :: fourth :: operator :: value :: surplus)
        (kind' :: second' :: target :: fourth' :: operator' :: value :: surplus)
  | placed {kind kind' operator operator' word word' : Text}
      (second second' target fourth fourth' value place : Text)
      (hkind : Text.sameWord kind kind' = true)
      (hoperator : Text.sameWord operator operator' = true)
      (hnamespace : Text.sameWord word Directive.namespaceWord = true)
      (hword : Text.sameWord word word' = true) :
      Respelled [kind, second, target, fourth, operator, value, word, place]
        [kind', second', target, fourth', operator', value, word', place]

namespace Directive

variable {files : FileSource} {base : Path} {method : Method} {arguments arguments' : List Text}

/-! ## Other spacing -/

/-- The body of a line matters only where it is quoted. -/
theorem ofWords_quoting (body body' : Text) (words : List Text) :
    ofWords files base body' words =
      (ofWords files base body words).mapError (Problem.quoting body') := by
  cases words with
  | nil => rfl
  | cons word arguments =>
    cases hmethod : Method.ofWord? word with
    -- the one problem that quotes the body
    | none =>
      simp only [ofWords, hmethod]
      rfl
    | some method =>
      -- behind a method the body is only noted down, and no problem of arguments quotes it
      have hbody : ofWords files base body' (word :: arguments) =
          ofWords files base body (word :: arguments) := by
        simp only [ofWords, hmethod]
      rw [hbody, mapError_of_failsOnly (ofWords_failsOnly hmethod)]
      exact fun problem hproblem => hproblem.quoting_eq body'

/-- Lines with the same words are read alike; only a text that is quoted is that of the line. -/
theorem read_of_words_eq {rest rest' : Text} (h : Text.words rest = Text.words rest') :
    read files base (marker ++ rest') =
      (read files base (marker ++ rest)).mapError (Problem.quoting (Text.trim rest')) := by
  -- the letters of a body are those of its words
  rw [← words_body_marker_append, ← words_body_marker_append rest'] at h
  have hstart : isStartPage (body (marker ++ rest)) = isStartPage (body (marker ++ rest')) := by
    rw [isStartPage, isStartPage, letters_congr h]
  have hend : isEndPage (body (marker ++ rest)) = isEndPage (body (marker ++ rest')) := by
    rw [isEndPage, isEndPage, letters_congr h]
  simp only [read, hstart, hend, h]
  cases isStartPage (body (marker ++ rest')) with
  | true => rfl
  | false =>
    cases isEndPage (body (marker ++ rest')) with
    | true => rfl
    | false => exact ofWords_quoting _ _ _

/-! ## Other letters -/

theorem conditionOf_congr {kind kind' operator operator' : Text}
    (hkind : Text.sameWord kind kind' = true) (hoperator : Text.sameWord operator operator' = true)
    (target value : Text) (place : Option Text) :
    conditionOf kind target operator value place =
      conditionOf kind' target operator' value place := by
  rw [conditionOf, conditionOf, Vocabulary.ofToken_congr hkind, Vocabulary.ofToken_congr hoperator]

/-- Arguments that spell the same condition come to the same. -/
theorem condition_respelled (h : Condition.Respelled arguments arguments') :
    condition method arguments = condition method arguments' := by
  cases h with
  | main second second' target fourth fourth' value surplus hkind hoperator =>
    simp only [condition, conditionOf_congr hkind hoperator]
  | placed second second' target fourth fourth' value place hkind hoperator hnamespace hword =>
    rename_i word word'
    -- the word before the place is the one for a namespace in both spellings
    have hnamespace' : Text.sameWord word' namespaceWord = true := by
      rw [Text.sameWord_comm, ← Text.sameWord_congr hword, Text.sameWord_comm]
      exact hnamespace
    rw [condition_of_place (.behind hnamespace), condition_of_place (.behind hnamespace'),
      conditionOf_congr hkind hoperator]

/-- Lines that begin with a method for conditions are read alike when their arguments spell the same
condition. -/
theorem read_of_respelled {rest rest' first first' : Text}
    (hmethod : method = .wait ∨ method = .check)
    (hwords : Text.words rest = first :: arguments)
    (hwords' : Text.words rest' = first' :: arguments')
    (hfirst : Text.sameWord method.word first = true) (hsame : Text.sameWord first first' = true)
    (h : Condition.Respelled arguments arguments') :
    read files base (marker ++ rest') = read files base (marker ++ rest) := by
  have hfirst' : Text.sameWord method.word first' = true := by
    rw [← Text.sameWord_congr hsame]
    exact hfirst
  -- only methods for conditions take their arguments as a condition
  have harguments : ofArguments files base method arguments =
      ofArguments files base method arguments' := by
    rcases hmethod with rfl | rfl
    · simp only [ofArguments, condition_respelled h]
    · simp only [ofArguments, condition_respelled h]
  rw [← words_body_marker_append] at hwords hwords'
  rw [read_eq_ofWords hwords (ofWord?_of_sameWord hfirst),
    read_eq_ofWords hwords' (ofWord?_of_sameWord hfirst')]
  simp only [ofWords, ofWord?_of_sameWord hfirst, ofWord?_of_sameWord hfirst', harguments]

/-- A directive line means its words. Lines with the same words are read alike, up to the text that
is quoted when there is no method; and lines that spell the same condition behind the same method
word, in any case, are read alike. -/
theorem read_words (files : FileSource) (base : Path) :
    (∀ rest rest', Text.words rest = Text.words rest' →
      read files base (marker ++ rest') =
        (read files base (marker ++ rest)).mapError (Problem.quoting (Text.trim rest'))) ∧
    ∀ (method : Method) (rest rest' first first' : Text) (arguments arguments' : List Text),
      method = .wait ∨ method = .check →
      Text.words rest = first :: arguments → Text.words rest' = first' :: arguments' →
      Text.sameWord method.word first = true → Text.sameWord first first' = true →
      Condition.Respelled arguments arguments' →
      read files base (marker ++ rest') = read files base (marker ++ rest) := by
  refine ⟨fun rest rest' => read_of_words_eq, ?_⟩
  intro method rest rest' first first' arguments arguments' hmethod hwords hwords' hfirst hsame h
  exact read_of_respelled hmethod hwords hwords' hfirst hsame h

/-- A line without a method, which quotes itself in other spacing, and a bad operator in other case
between other words. -/
theorem read_words_unknown_and_bad_operator :
    (read ⟨.ok, fun _ => .ok []⟩ "lesson".toList (marker ++ " DO  it".toList)).outcome =
        .error (.unknownDirective "DO  it".toList) ∧
      (read ⟨.ok, fun _ => .ok []⟩ "lesson".toList (marker ++ "DO\tit ".toList)).outcome =
        .error (.unknownDirective "DO\tit".toList) ∧
      (read ⟨.ok, fun _ => .ok []⟩ "lesson".toList
          (marker ++ " WAIT pod NAME web COUNT EQUAL 3".toList)).outcome =
        .error (.unacceptedWord .operator "EQUAL".toList (some "EQUALS".toList)) ∧
      (read ⟨.ok, fun _ => .ok []⟩ "lesson".toList
          (marker ++ " wait Pod is web at eQual 3".toList)).outcome =
        .error (.unacceptedWord .operator "EQUAL".toList (some "EQUALS".toList)) := by
  obtain ⟨hspacing, hletters⟩ := read_words ⟨.ok, fun _ => .ok []⟩ "lesson".toList
  have hunknown : (read ⟨.ok, fun _ => .ok []⟩ "lesson".toList
      (marker ++ " DO  it".toList)).outcome = .error (.unknownDirective "DO  it".toList) := by
    decide +kernel
  have hoperator : (read ⟨.ok, fun _ => .ok []⟩ "lesson".toList
      (marker ++ " WAIT pod NAME web COUNT EQUAL 3".toList)).outcome =
        .error (.unacceptedWord .operator "EQUAL".toList (some "EQUALS".toList)) := by
    decide +kernel
  refine ⟨hunknown, ?_, hoperator, ?_⟩
  · rw [hspacing " DO  it".toList "DO\tit ".toList (by decide +kernel)]
    exact outcome_mapError_eq_error.mpr ⟨_, hunknown, rfl⟩
  · have hwords : Text.words " WAIT pod NAME web COUNT EQUAL 3".toList =
        ["WAIT".toList, "pod".toList, "NAME".toList, "web".toList, "COUNT".toList, "EQUAL".toList,
          "3".toList] := by
      decide +kernel
    have hwords' : Text.words " wait Pod is web at eQual 3".toList =
        ["wait".toList, "Pod".toList, "is".toList, "web".toList, "at".toList, "eQual".toList,
          "3".toList] := by
      decide +kernel
    rw [hletters .wait _ _ _ _ _ _ (.inl rfl) hwords hwords' (by decide) (by decide)
      (.main _ _ _ _ _ _ [] (by decide) (by decide))]
    exact hoperator

end Directive

end TutorialPages
