import TutorialPages.Proofs.Directive.Vocabulary
import TutorialPages.Proofs.Directive.Wording
import TutorialPages.Proofs.Text.Integer

/-!
# The decision table of conditions

What the arguments of a condition come to, row by row: first the rows for their number, which look
at no word but the seventh, then those for the words themselves, of which the first bad one decides.
Each list of arguments has exactly one row (`condition_eq_iff`). A line that begins with the word
of a method for conditions is read by this table (`read_condition`).
-/

namespace TutorialPages

namespace Condition

/-- What stands behind the six main arguments: nothing, or a namespace behind its word. -/
inductive Place : List Text → Option Text → Prop where
  | nowhere : Place [] none
  | behind {word place : Text} (hword : Text.sameWord word Directive.namespaceWord = true) :
      Place [word, place] (some place)

/-- The rows of the table. The first three are about the number of arguments, the others have six
main arguments and a place. -/
inductive Decided (method : Method) : List Text → Except Problem Condition → Prop where
  /-- There are fewer than six arguments. -/
  | tooFew {arguments : List Text} (hlength : arguments.length < 6) :
      Decided method arguments (.error (.missingArgument method))
  /-- The word for a namespace is the last one. -/
  | noNamespace {six : List Text} {word : Text} (hsix : six.length = 6)
      (hword : Text.sameWord word Directive.namespaceWord = true) :
      Decided method (six ++ [word]) (.error (.missingArgument method))
  /-- There are more than six arguments, but not a namespace behind its word. -/
  | tooMany {six : List Text} {word : Text} {others : List Text} (hsix : six.length = 6)
      (hothers : Text.sameWord word Directive.namespaceWord = true → 2 ≤ others.length) :
      Decided method (six ++ word :: others)
        (.error (.trailingTokens method (Text.joinWith [' '] (word :: others))))
  /-- The first argument names no kind of resource. -/
  | badKind {kind second target fourth operator value : Text} {surplus : List Text}
      {place : Option Text} (hplace : Place surplus place)
      (hkind : ∀ named : ResourceKind, ¬Vocabulary.Names kind named) :
      Decided method (kind :: second :: target :: fourth :: operator :: value :: surplus)
        (.error (.unacceptedWord .kind (Text.toUpper kind)
          (Vocabulary.related (Text.toUpper kind) (Vocabulary.words ResourceKind)).head?))
  /-- The first argument names a kind, but the fifth names no operator. -/
  | badOperator {kind second target fourth operator value : Text} {surplus : List Text}
      {place : Option Text} {kindNamed : ResourceKind} (hplace : Place surplus place)
      (hkind : Vocabulary.Names kind kindNamed)
      (hoperator : ∀ named : Operator, ¬Vocabulary.Names operator named) :
      Decided method (kind :: second :: target :: fourth :: operator :: value :: surplus)
        (.error (.unacceptedWord .operator (Text.toUpper operator)
          (Vocabulary.related (Text.toUpper operator) (Vocabulary.words Operator)).head?))
  /-- Both words are good, but the sixth argument is no number of 64 bits. -/
  | badNumber {kind second target fourth operator value : Text} {surplus : List Text}
      {place : Option Text} {kindNamed : ResourceKind} {operatorNamed : Operator}
      (hplace : Place surplus place) (hkind : Vocabulary.Names kind kindNamed)
      (hoperator : Vocabulary.Names operator operatorNamed)
      (hvalue : ∀ n, Text.Spells value n → ¬(-2 ^ 63 ≤ n ∧ n ≤ 2 ^ 63 - 1)) :
      Decided method (kind :: second :: target :: fourth :: operator :: value :: surplus)
        (.error (.invalidNumber value))
  /-- All words are good. -/
  | stated {kind second target fourth operator value : Text} {surplus : List Text}
      {place : Option Text} {kindNamed : ResourceKind} {operatorNamed : Operator} {count : Int64}
      (hplace : Place surplus place) (hkind : Vocabulary.Names kind kindNamed)
      (hoperator : Vocabulary.Names operator operatorNamed)
      (hvalue : Text.Spells value count.toInt) :
      Decided method (kind :: second :: target :: fourth :: operator :: value :: surplus)
        (.ok ⟨kindNamed, target, operatorNamed, count, place⟩)

/-- The directive of a method that states a condition. -/
def directive (method : Method) (condition : Condition) : Directive :=
  match method.role with
  | .preCommand => .pre (.wait condition)
  | .postCheck => .post (.check condition)

end Condition

namespace Directive

open Condition Traced

variable {method : Method} {arguments : List Text}

/-! ## The words of a condition -/

section Words

variable {kind second target fourth operator value : Text} {surplus : List Text}
  {place : Option Text}

/-- With a place behind them the six main arguments decide. -/
theorem condition_of_place (hplace : Place surplus place) :
    condition method (kind :: second :: target :: fourth :: operator :: value :: surplus) =
      conditionOf kind target operator value place := by
  cases hplace with
  | nowhere => rfl
  | behind hword => simp [condition, hword]

/-- The words are read in turn, and the first bad one decides. -/
theorem decided_conditionOf (hplace : Place surplus place) :
    Decided method (kind :: second :: target :: fourth :: operator :: value :: surplus)
      (conditionOf kind target operator value place) := by
  rw [conditionOf]
  -- the kind comes first, then the operator, then the number, and each can end the reading
  rcases Vocabulary.ofToken_cases ResourceKind kind with ⟨kindNamed, hkind, hread⟩ | ⟨hkind, hread⟩
  · rw [hread]
    rcases Vocabulary.ofToken_cases Operator operator with
      ⟨operatorNamed, hoperator, hread⟩ | ⟨hoperator, hread⟩
    · rw [hread]
      cases hnumber : Text.int64? value with
      | some count =>
        rw [Directive.count, hnumber]
        exact .stated hplace hkind hoperator (Text.int64?_eq_some_iff.mp hnumber)
      | none =>
        rw [Directive.count, hnumber]
        exact .badNumber hplace hkind hoperator (Text.int64?_eq_none_iff.mp hnumber)
    · rw [hread]
      exact .badOperator hplace hkind hoperator
  · rw [hread]
    exact .badKind hplace hkind

end Words

/-! ## The table -/

/-- Every list of arguments has a row, and it is decided by that row. -/
theorem decided_condition (method : Method) (arguments : List Text) :
    Decided method arguments (condition method arguments) := by
  match arguments with
  -- by the number of arguments: six are needed, and of those behind them one or two have a meaning
  | [] | [_] | [_, _] | [_, _, _] | [_, _, _, _] | [_, _, _, _, _] => exact .tooFew (by simp)
  | kind :: second :: target :: fourth :: operator :: value :: surplus =>
    match surplus with
    | [] => exact decided_conditionOf .nowhere
    | [word] =>
      cases hword : Text.sameWord word namespaceWord with
      | true =>
        simp only [condition, hword, ↓reduceIte]
        exact @Decided.noNamespace _ [kind, second, target, fourth, operator, value] _ rfl hword
      | false =>
        simp only [condition, hword, Bool.false_eq_true, ↓reduceIte]
        exact @Decided.tooMany _ [kind, second, target, fourth, operator, value] _ _ rfl
          (by simp [hword])
    | [word, place] =>
      cases hword : Text.sameWord word namespaceWord with
      | true =>
        rw [condition_of_place (.behind hword)]
        exact decided_conditionOf (.behind hword)
      | false =>
        simp only [condition, hword, Bool.false_eq_true, ↓reduceIte]
        exact @Decided.tooMany _ [kind, second, target, fourth, operator, value] _ _ rfl
          (by simp [hword])
    -- with three words behind the six it does not matter what they are
    | word :: place :: third :: others =>
      exact @Decided.tooMany _ [kind, second, target, fourth, operator, value] _ _ rfl (by simp)

/-- The rows exclude each other: what a row says is what the arguments come to. -/
theorem condition_eq_of_decided {result : Except Problem Condition}
    (h : Decided method arguments result) : condition method arguments = result := by
  cases h with
  | tooFew hlength =>
    -- fewer than six arguments fail before any of them is looked at
    match arguments, hlength with
    | [], _ | [_], _ | [_, _], _ | [_, _, _], _ | [_, _, _, _], _ | [_, _, _, _, _], _ => rfl
  | @noNamespace six word hsix hword =>
    match six, hsix with
    | [_, _, _, _, _, _], _ => simp [condition, hword]
  | @tooMany six word others hsix hothers =>
    match six, hsix with
    | [_, _, _, _, _, _], _ =>
      -- with fewer than two words behind it the seventh is not the word for a namespace
      have hword : others.length < 2 → Text.sameWord word namespaceWord = false := by
        intro hlength
        by_contra hsame
        have := hothers (by simpa using hsame)
        omega
      match others with
      | [] => simp [condition, hword]
      | [_] => simp [condition, hword]
      | _ :: _ :: _ => rfl
  | badKind hplace hkind =>
    -- a place is good or absent, so the six words decide in their order
    rw [condition_of_place hplace, conditionOf,
      Vocabulary.ofToken_eq_error_iff.mpr ⟨hkind, rfl⟩]
    rfl
  | badOperator hplace hkind hoperator =>
    rw [condition_of_place hplace, conditionOf, Vocabulary.ofToken_eq_ok_iff.mpr hkind,
      Vocabulary.ofToken_eq_error_iff.mpr ⟨hoperator, rfl⟩]
    rfl
  | badNumber hplace hkind hoperator hvalue =>
    rw [condition_of_place hplace, conditionOf, Vocabulary.ofToken_eq_ok_iff.mpr hkind,
      Vocabulary.ofToken_eq_ok_iff.mpr hoperator, count, Text.int64?_eq_none_iff.mpr hvalue]
    rfl
  | stated hplace hkind hoperator hvalue =>
    rw [condition_of_place hplace, conditionOf, Vocabulary.ofToken_eq_ok_iff.mpr hkind,
      Vocabulary.ofToken_eq_ok_iff.mpr hoperator, count, Text.int64?_eq_some_iff.mpr hvalue]
    rfl

/-- The table says what arguments come to. -/
theorem condition_eq_iff {result : Except Problem Condition} :
    condition method arguments = result ↔ Decided method arguments result :=
  ⟨fun h => h ▸ decided_condition method arguments, condition_eq_of_decided⟩

/-- The words between the main arguments do not matter, however many arguments there are. -/
theorem condition_set (arguments : List Text) (second fourth : Text) :
    condition method ((arguments.set 1 second).set 3 fourth) = condition method arguments := by
  match arguments with
  | [] | [_] | [_, _] | [_, _, _] | [_, _, _, _] | [_, _, _, _, _] => rfl
  | _ :: _ :: _ :: _ :: _ :: _ :: _ => rfl

/-! ## Lines with conditions -/

variable {files : FileSource} {base : Path} {rest first : Text}

/-- A line that begins with a method for conditions states what its arguments come to. -/
theorem outcome_read_of_condition (hmethod : method = .wait ∨ method = .check)
    (hwords : Text.words rest = first :: arguments)
    (hfirst : Text.sameWord method.word first = true) :
    (read files base (marker ++ rest)).outcome =
      (condition method arguments).map (Condition.directive method) := by
  rw [← words_body_marker_append] at hwords
  rw [outcome_read_of_words hwords (ofWord?_of_sameWord hfirst)]
  rcases hmethod with rfl | rfl
  · simp only [ofArguments]
    cases condition .wait arguments with
    | ok condition => rfl
    | error problem => rfl
  · simp only [ofArguments]
    cases condition .check arguments with
    | ok condition => rfl
    | error problem => rfl

/-- A line that begins with the word of a method for conditions, in any case, is read by the table:
it states a result exactly when its arguments have a row with that result. The second and the fourth
argument never matter. -/
theorem read_condition (files : FileSource) (base : Path)
    (hmethod : method = .wait ∨ method = .check)
    (hwords : Text.words rest = first :: arguments)
    (hfirst : Text.sameWord method.word first = true) :
    (∀ result : Except Problem Directive,
      (read files base (marker ++ rest)).outcome = result ↔
        ∃ decided, Decided method arguments decided ∧
          result = decided.map (Condition.directive method)) ∧
    ∀ rest' second fourth,
      Text.words rest' = first :: (arguments.set 1 second).set 3 fourth →
      (read files base (marker ++ rest')).outcome = (read files base (marker ++ rest)).outcome := by
  -- all rests on the line coming to what its arguments come to
  have hread : (read files base (marker ++ rest)).outcome =
      (condition method arguments).map (Condition.directive method) :=
    outcome_read_of_condition hmethod hwords hfirst
  refine ⟨?_, ?_⟩
  · intro result
    rw [hread]
    constructor
    · rintro rfl
      exact ⟨_, decided_condition method arguments, rfl⟩
    · rintro ⟨decided, hdecided, rfl⟩
      rw [condition_eq_iff.mpr hdecided]
  · intro rest' second fourth hwords'
    -- the two words that are exchanged are never looked at
    rw [hread, outcome_read_of_condition hmethod hwords' hfirst, condition_set]

/-- A namespace that is missing counts before a bad kind, and the lowest number of 64 bits is still
read. -/
theorem read_condition_no_namespace_and_lowest :
    (read ⟨.ok, fun _ => .ok []⟩ "lesson".toList
        (marker ++ " Check pods NAME web COUNT EQUALS 3 namespace".toList)).outcome =
      .error (.missingArgument .check) ∧
    (read ⟨.ok, fun _ => .ok []⟩ "lesson".toList (marker ++
        " wait Pod is web at\tequals -9223372036854775808 NameSpace demo".toList)).outcome =
      .ok (.pre (.wait ⟨.pod, "web".toList, .equals, Int64.minValue, some "demo".toList⟩)) := by
  constructor
  -- eight words, of which the last announces a namespace and nothing follows
  · have hwords : Text.words " Check pods NAME web COUNT EQUALS 3 namespace".toList =
        "Check".toList :: ((["pods", "NAME", "web", "COUNT", "EQUALS", "3"] : List String).map
          String.toList ++ ["namespace".toList]) := by
      decide +kernel
    have hrow := @Decided.noNamespace .check
      ((["pods", "NAME", "web", "COUNT", "EQUALS", "3"] : List String).map String.toList)
      "namespace".toList rfl (by decide)
    have htable := (read_condition ⟨.ok, fun _ => .ok []⟩ "lesson".toList (.inr rfl) hwords
      (by decide)).1
    exact (htable _).mpr ⟨_, hrow, rfl⟩
  -- four words in any case between blanks of two kinds, and the number on the edge of its range
  · have hwords :
        Text.words " wait Pod is web at\tequals -9223372036854775808 NameSpace demo".toList =
          ["wait".toList, "Pod".toList, "is".toList, "web".toList, "at".toList, "equals".toList,
            "-9223372036854775808".toList, "NameSpace".toList, "demo".toList] := by
      decide +kernel
    have hnumber : Text.Spells "-9223372036854775808".toList Int64.minValue.toInt :=
      @Text.Spells.minus "9223372036854775808".toList ⟨by decide, List.all_eq_true.1 (by decide)⟩
    have htable := (read_condition ⟨.ok, fun _ => .ok []⟩ "lesson".toList (.inl rfl) hwords
      (by decide)).1
    exact (htable _).mpr
      ⟨_, .stated (.behind (by decide)) (by decide) (by decide) hnumber, rfl⟩

end Directive

end TutorialPages
