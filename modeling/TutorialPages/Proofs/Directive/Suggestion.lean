import Mathlib.Data.List.Basic
import TutorialPages.Proofs.Directive.Vocabulary
import TutorialPages.Proofs.Text.Search

/-!
# Suggestions

Two words are related when one is a contiguous part of the other. Of a list of options those that
are related to a word are selected as they stand, each as often as it is listed (`eq_related_iff`).
What a refused token is reported with is the first of its vocabulary that is related to it, so there
is a suggestion as soon as anything is.
-/

namespace TutorialPages.Vocabulary

/-- One of the two words is a contiguous part of the other. -/
def Related (value option : Text) : Prop :=
  value <:+: option ∨ option <:+: value

instance (value option : Text) : Decidable (Related value option) :=
  decidable_of_iff ((Text.occursIn value option || Text.occursIn option value) = true) <| by
    rw [Bool.or_eq_true, Text.occursIn_iff, Text.occursIn_iff, Related]

/-- The word is the first of the options that are related to the value. -/
def IsEarliest (value : Text) (options : List Text) (option : Text) : Prop :=
  ∃ before after, options = before ++ option :: after ∧ Related value option ∧
    ∀ other ∈ before, ¬Related value other

variable {value option : Text} {options chosen : List Text}

/-! ## The options that are related to a word -/

theorem related_eq (value : Text) (options : List Text) :
    related value options = options.filter (Related value ·) := by
  rw [related]
  apply List.filter_congr
  intro option hoption
  rw [Bool.eq_iff_iff, Bool.or_eq_true, decide_eq_true_iff, Text.occursIn_iff, Text.occursIn_iff,
    Related]

theorem count_related (value option : Text) (options : List Text) :
    (related value options).count option =
      if Related value option then options.count option else 0 := by
  rw [related_eq]
  split
  · next h => exact List.count_filter (decide_eq_true h)
  · next h =>
    rw [List.count_eq_zero, List.mem_filter, not_and, decide_eq_true_iff]
    exact fun hmem => h

/-- The selection of related options is the one sublist of the options in which every related one
stands as often as among the options, and no other one at all. -/
theorem eq_related_iff :
    chosen = related value options ↔
      chosen.Sublist options ∧
        ∀ option, chosen.count option =
          if Related value option then options.count option else 0 := by
  constructor
  · rintro rfl
    exact ⟨List.filter_sublist, fun option => count_related value option options⟩
  · rintro ⟨hsublist, hcount⟩
    have hrelated : ∀ option ∈ chosen, decide (Related value option) = true := by
      intro option hmem
      apply decide_eq_true
      by_contra hnot
      -- an option that is not related is not counted, so it is not there
      have hzero := hcount option
      rw [if_neg hnot, List.count_eq_zero] at hzero
      exact hzero hmem
    have hwithin : chosen.Sublist (related value options) := by
      rw [related_eq, ← List.filter_eq_self.mpr hrelated]
      exact hsublist.filter _
    -- a sublist is determined by its counts, since it can be no longer
    have hperm : chosen.Perm (related value options) := by
      rw [List.perm_iff_count]
      intro option
      rw [hcount, count_related]
    exact hwithin.eq_of_length hperm.length_eq

theorem head?_related_eq_some_iff :
    (related value options).head? = some option ↔ IsEarliest value options option := by
  rw [related_eq, List.head?_filter, List.find?_eq_some_iff_append, IsEarliest]
  simp only [decide_eq_true_iff, Bool.not_eq_true', decide_eq_false_iff_not]
  constructor
  · rintro ⟨hrelated, before, after, hoptions, hbefore⟩
    exact ⟨before, after, hoptions, hrelated, hbefore⟩
  · rintro ⟨before, after, hoptions, hrelated, hbefore⟩
    exact ⟨hrelated, before, after, hoptions, hbefore⟩

theorem head?_related_eq_none_iff :
    (related value options).head? = none ↔ ∀ option ∈ options, ¬Related value option := by
  rw [related_eq, List.head?_filter, List.find?_eq_none]
  simp only [decide_eq_true_iff]

/-- When an option is related, there is a first one, and it does not come later. -/
theorem exists_head?_related (hrelated : Related value option) (before after : List Text) :
    ∃ given ∈ before ++ [option],
      (related value (before ++ option :: after)).head? = some given := by
  have hfront : before ++ option :: after = (before ++ [option]) ++ after := by
    rw [List.append_assoc, List.singleton_append]
  -- the first related option among those up to this one is the first of all
  have hmem : option ∈ (before ++ [option]).filter (Related value ·) := by
    rw [List.mem_filter]
    exact ⟨List.mem_append_right before (List.mem_singleton_self option), decide_eq_true hrelated⟩
  obtain ⟨given, others, hselected⟩ := List.exists_cons_of_ne_nil (List.ne_nil_of_mem hmem)
  refine ⟨given, ?_, ?_⟩
  · apply List.mem_of_mem_filter (p := (Related value ·))
    rw [hselected]
    exact List.mem_cons_self
  · rw [related_eq, hfront, List.filter_append, hselected]
    rfl

/-! ## Refused tokens -/

/-- A word with more around it is related to the word. -/
theorem related_of_extends {left right : Text} (h : value = left ++ option ++ right) :
    Related value option :=
  .inr ⟨left, right, h.symm⟩

/-- A token is read as the value whose word is its full uppercase form. When there is none, it is
refused in upper case together with the earliest word that is related to it, if any is. So there is
a suggestion whenever the token goes beyond a word of the vocabulary or is a part of one, and it is
this word or an earlier one. -/
theorem ofToken_suggestion (α : Type) [Vocabulary α] [IsFaithful α] (token : Text) :
    (∀ value : α, ofToken α token = .ok value ↔ Text.toUpper token = word value) ∧
    ((∀ value : α, Text.toUpper token ≠ word value) →
      (∃ suggestion, ofToken α token =
        .error (.unacceptedWord (field α) (Text.toUpper token) suggestion)) ∧
      (∀ option, ofToken α token =
          .error (.unacceptedWord (field α) (Text.toUpper token) (some option)) ↔
        IsEarliest (Text.toUpper token) (words α) option) ∧
      (ofToken α token = .error (.unacceptedWord (field α) (Text.toUpper token) none) ↔
        ∀ option ∈ words α, ¬Related (Text.toUpper token) option) ∧
      ∀ before option after, words α = before ++ option :: after →
        (∃ left right, Text.toUpper token = left ++ option ++ right ∧ left ++ right ≠ []) ∨
          (Text.toUpper token ≠ [] ∧ Text.toUpper token <:+: option ∧
            Text.toUpper token ≠ option) →
        ∃ given ∈ before ++ [option], ofToken α token =
          .error (.unacceptedWord (field α) (Text.toUpper token) (some given))) ∧
    ∀ (value : Text) (options chosen : List Text), chosen = related value options ↔
      chosen.Sublist options ∧
        ∀ option, chosen.count option =
          if Related value option then options.count option else 0 := by
  refine ⟨fun value => ofToken_eq_ok_iff, ?_, fun value options chosen => eq_related_iff⟩
  intro hnone
  -- a token that names nothing is refused with the first related word
  have hrefused : ofToken α token = .error (.unacceptedWord (field α) (Text.toUpper token)
      (related (Text.toUpper token) (words α)).head?) :=
    ofToken_eq_error_iff.mpr ⟨hnone, rfl⟩
  have hsuggestion : ∀ suggestion, ofToken α token =
      .error (.unacceptedWord (field α) (Text.toUpper token) suggestion) ↔
        (related (Text.toUpper token) (words α)).head? = suggestion := by
    intro suggestion
    rw [hrefused]
    simp
  refine ⟨⟨_, hrefused⟩, ?_, ?_, ?_⟩
  · intro option
    rw [hsuggestion, head?_related_eq_some_iff]
  · rw [hsuggestion, head?_related_eq_none_iff]
  · intro before option after hwords hpart
    -- a token beyond a word contains it, and a part of a word is contained
    have hrelated : Related (Text.toUpper token) option := by
      rcases hpart with ⟨left, right, hextends, -⟩ | ⟨-, hwithin, -⟩
      · exact related_of_extends hextends
      · exact .inl hwithin
    obtain ⟨given, hmem, hhead⟩ := exists_head?_related hrelated before after
    refine ⟨given, hmem, ?_⟩
    rw [hsuggestion, hwords, hhead]

/-- Of the two operators that a token is a part of the first is suggested; a token may also go
beyond a kind, or have nothing to do with any. -/
theorem ofToken_suggestion_of_both_vocabularies :
    ofToken Operator "than".toList =
      .error (.unacceptedWord .operator "THAN" (some "GREATERTHAN".toList)) ∧
    ofToken ResourceKind "podſ".toList =
      .error (.unacceptedWord .kind "PODS" (some "POD".toList)) ∧
    ofToken ResourceKind "banana".toList = .error (.unacceptedWord .kind "BANANA" none) := by
  have hthan : Text.toUpper "than".toList = "THAN".toList := by decide
  have hpods : Text.toUpper "podſ".toList = "PODS".toList := by decide
  have hbanana : Text.toUpper "banana".toList = "BANANA".toList := by decide
  obtain ⟨-, hoperator, -⟩ := ofToken_suggestion Operator "than".toList
  obtain ⟨-, hkind, -⟩ := ofToken_suggestion ResourceKind "podſ".toList
  obtain ⟨-, hother, -⟩ := ofToken_suggestion ResourceKind "banana".toList
  rw [hthan] at hoperator
  rw [hpods] at hkind
  rw [hbanana] at hother
  refine ⟨?_, ?_, ?_⟩
  · obtain ⟨-, hearliest, -⟩ := hoperator (by intro operator; cases operator <;> decide)
    exact (hearliest _).mpr ⟨["EQUALS".toList], ["LESSTHAN".toList], rfl, by decide, by decide⟩
  · obtain ⟨-, hearliest, -⟩ := hkind (by intro kind; cases kind <;> decide)
    exact (hearliest _).mpr ⟨[], (words ResourceKind).tail, rfl, by decide, by decide⟩
  · obtain ⟨-, -, hsilent, -⟩ := hother (by intro kind; cases kind <;> decide)
    exact hsilent.mpr (by decide)

end TutorialPages.Vocabulary
