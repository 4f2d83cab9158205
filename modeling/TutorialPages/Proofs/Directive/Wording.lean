import TutorialPages.Directive.Reader
import TutorialPages.Proofs.Text.LetterCase
import TutorialPages.Proofs.Text.Words
import TutorialPages.Proofs.Traced

/-!
# The words of a directive line

Three looks are taken at a directive line: at its letters, for a page marker; at its first word, for
a method; and at the words behind it, for the arguments of the method. All three see nothing but the
words of the line. The first never gets in the way of the second, because no method word begins like
a page marker; so a line that begins with a method word states what its arguments state.
-/

namespace TutorialPages.Directive

open Traced

variable {files : FileSource} {base : Path} {line word : Text} {method : Method}
  {arguments : List Text}

/-- What stands behind the arrow is trimmed. -/
theorem body_marker_append (rest : Text) : body (marker ++ rest) = Text.trim rest := rfl

/-- The words of a line are those behind its arrow. -/
theorem words_body_marker_append (rest : Text) :
    Text.words (body (marker ++ rest)) = Text.words rest := by
  rw [body_marker_append, Text.words_trim]

/-! ## Page markers -/

/-- Page markers are recognised by the words of the body, put together in capital letters. -/
theorem letters_eq (body : Text) : letters body = Text.toUpper (Text.words body).flatten := by
  rw [Text.flatten_words]
  rfl

/-- Bodies with the same words mark the same pages. -/
theorem letters_congr {body body' : Text} (h : Text.words body = Text.words body') :
    letters body = letters body' := by
  rw [letters_eq, letters_eq, h]

/-- A word that names a method has the word of that method as its uppercase form. -/
theorem toUpper_of_ofWord? (h : Method.ofWord? word = some method) :
    Text.toUpper word = method.word := by
  have hcapital : ∀ c ∈ method.word, IsCapital c := by
    have hall : (method.word.all fun c => decide (IsCapital c)) = true := by
      cases method <;> rfl
    simpa only [List.all_eq_true, decide_eq_true_eq] using hall
  have hsame : Text.sameWord method.word word = true :=
    List.find?_some (p := fun method : Method => Text.sameWord method.word word) h
  exact Text.toUpper_of_sameWord hcapital hsame

/-- A text that begins with the word of a method marks no page. -/
theorem not_pageMarker_of_ofWord? {text : Text} (hwords : Text.words text = word :: arguments)
    (hmethod : Method.ofWord? word = some method) :
    isStartPage text = false ∧ isEndPage text = false := by
  have hletters : letters text = method.word ++ Text.toUpper arguments.flatten := by
    rw [letters_eq, hwords, List.flatten_cons, ← toUpper_of_ofWord? hmethod]
    exact List.flatMap_append
  -- no method word begins like a page marker
  rw [isStartPage, isEndPage, hletters]
  constructor
  · cases method <;> rfl
  · cases method <;> rfl

/-! ## Methods -/

/-- The word of a method, in any case, names that method and no other. -/
theorem ofWord?_of_sameWord (h : Text.sameWord method.word word = true) :
    Method.ofWord? word = some method := by
  have hpredicate : (fun other : Method => Text.sameWord other.word word) =
      fun other => Text.sameWord other.word method.word := by
    funext other
    exact (Text.sameWord_congr h other.word).symm
  rw [Method.ofWord?, hpredicate]
  cases method <;> rfl

/-- A line that begins with a method word is read by that method. -/
theorem read_eq_ofWords (hwords : Text.words (body line) = word :: arguments)
    (hmethod : Method.ofWord? word = some method) :
    read files base line = ofWords files base (body line) (word :: arguments) := by
  obtain ⟨hstart, hend⟩ := not_pageMarker_of_ofWord? hwords hmethod
  simp only [read, hstart, hend, hwords, Bool.false_eq_true, ↓reduceIte]

/-- What such a line states is what its arguments state. -/
theorem outcome_read_of_words (hwords : Text.words (body line) = word :: arguments)
    (hmethod : Method.ofWord? word = some method) :
    (read files base line).outcome = (ofArguments files base method arguments).outcome := by
  rw [read_eq_ofWords hwords hmethod]
  simp only [ofWords, hmethod]
  -- only a log record comes behind the arguments
  cases houtcome : (ofArguments files base method arguments).outcome with
  | ok directive => rw [outcome_bind_of_ok houtcome, outcome_log_bind, outcome_pure]
  | error problem => exact outcome_bind_eq_error.mpr (.inl houtcome)

end TutorialPages.Directive
