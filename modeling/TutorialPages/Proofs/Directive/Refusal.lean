import TutorialPages.Proofs.Directive.Condition

/-!
# What keeps a directive from being read

A line without a method is refused as a whole. Where there is a method, only its arguments can be
wrong: their number, a word of a vocabulary, a number, or the file that they name.
-/

namespace TutorialPages

open Traced

/-- A problem of the arguments of a method. -/
def Problem.IsOfArguments : Problem → Prop
  | .unacceptedWord .. | .invalidNumber _ | .emptyCommand _ | .emptyTarget _
  | .missingArgument _ | .trailingTokens .. | .unreadable .. => True
  | _ => False

namespace Directive

variable {files : FileSource} {base : Path} {method : Method} {arguments : List Text}
  {problem : Problem}

theorem isOfArguments_of_condition (h : condition method arguments = .error problem) :
    problem.IsOfArguments := by
  -- each row that refuses has a problem of the arguments
  cases condition_eq_iff.mp h with
  | tooFew | noNamespace | tooMany | badKind | badOperator | badNumber => trivial

theorem isOfArguments_of_spoken {absence : Problem} (habsence : absence.IsOfArguments)
    (h : spoken absence arguments = .error problem) : problem.IsOfArguments := by
  cases arguments with
  | nil =>
    cases h
    exact habsence
  | cons first others => cases h

theorem embeddedFile_failsOnly (method : Method) (arguments : List Text) :
    (embeddedFile files base method arguments).FailsOnly Problem.IsOfArguments := by
  match arguments with
  | [] => exact FailsOnly.fail trivial
  | _ :: _ :: _ => exact FailsOnly.fail trivial
  | [name] =>
    refine FailsOnly.bind (FailsOnly.emit _) fun _ _ => ?_
    split
    · exact FailsOnly.pure _
    · exact FailsOnly.fail trivial

theorem ofArguments_failsOnly (method : Method) (arguments : List Text) :
    (ofArguments files base method arguments).FailsOnly Problem.IsOfArguments := by
  cases method with
  | apply | includeFile =>
    exact (embeddedFile_failsOnly _ arguments).bind fun _ _ => FailsOnly.pure _
  | wait | check =>
    refine FailsOnly.bind (FailsOnly.ofExcept ?_) fun _ _ => FailsOnly.pure _
    exact fun _ => isOfArguments_of_condition
  | execCommand | commandWait | fileCheck | checkCommandOut =>
    refine FailsOnly.bind (FailsOnly.ofExcept ?_) fun _ _ => FailsOnly.pure _
    exact fun _ => isOfArguments_of_spoken trivial

/-- Behind a method word only the arguments can be wrong. -/
theorem ofWords_failsOnly {body word : Text} (hmethod : Method.ofWord? word = some method) :
    (ofWords files base body (word :: arguments)).FailsOnly Problem.IsOfArguments := by
  simp only [ofWords, hmethod]
  refine (ofArguments_failsOnly _ _).bind fun _ _ => ?_
  exact (FailsOnly.log _ _).bind fun _ _ => FailsOnly.pure _

end Directive

end TutorialPages
