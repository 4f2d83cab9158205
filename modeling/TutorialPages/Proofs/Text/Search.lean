import TutorialPages.Text.Basic

/-!
# Searching a text

Where the first occurrence of a mark or of a word is found: a mark that stands behind a front
without it is found there, and a word that a text begins with is found at the beginning.
-/

namespace TutorialPages.Text

/-! ## Marks -/

/-- The text behind a mark that does not occur before. -/
theorem after?_append_cons {mark : Char} {front : Text} (h : mark ∉ front) (rest : Text) :
    after? mark (front ++ mark :: rest) = some rest := by
  induction front with
  | nil => rw [List.nil_append, after?, if_pos rfl]
  | cons c front ih =>
    have hne : c ≠ mark := fun hmark => h (hmark ▸ List.mem_cons_self)
    rw [List.cons_append, after?, if_neg hne, ih fun hfront => h (List.mem_cons_of_mem c hfront)]

/-- The text behind a mark that occurs in the front. -/
theorem after?_append_of_mem {mark : Char} {front : Text} (h : mark ∈ front) (rest : Text) :
    ∃ back, after? mark (front ++ rest) = some (back ++ rest) := by
  induction front with
  | nil => cases h
  | cons c front ih =>
    rw [List.cons_append, after?]
    split
    · exact ⟨front, rfl⟩
    · next hne => exact ih ((List.mem_cons.mp h).resolve_left (Ne.symm hne))

theorem after?_eq_none_iff {mark : Char} {text : Text} : after? mark text = none ↔ mark ∉ text := by
  induction text with
  | nil => simp [after?]
  | cons c text ih =>
    rw [after?, List.mem_cons, not_or, ← ih]
    split
    · next hmark => simp [hmark]
    · next hne => simp [Ne.symm hne]

/-- What is found stands behind the first mark. -/
theorem after?_eq_some_iff {mark : Char} {text rest : Text} :
    after? mark text = some rest ↔ ∃ front, mark ∉ front ∧ text = front ++ mark :: rest := by
  constructor
  · intro h
    induction text with
    | nil => cases h
    | cons c text ih =>
      rw [after?] at h
      split at h
      · next hmark =>
        exact ⟨[], List.not_mem_nil, by rw [hmark, Option.some.inj h, List.nil_append]⟩
      · next hne =>
        -- the character in front is no mark, so it belongs to the front
        obtain ⟨front, hfront, rfl⟩ := ih h
        refine ⟨c :: front, ?_, rfl⟩
        rw [List.mem_cons, not_or]
        exact ⟨Ne.symm hne, hfront⟩
  · rintro ⟨front, hfront, rfl⟩
    exact after?_append_cons hfront rest

/-- The text before the first mark. -/
theorem takeWhile_append_cons {mark : Char} {front : Text} (h : mark ∉ front) (rest : Text) :
    (front ++ mark :: rest).takeWhile (· ≠ mark) = front := by
  have hfront : ∀ c ∈ front, decide (c ≠ mark) = true := by
    intro c hc
    exact decide_eq_true fun hmark => h (hmark ▸ hc)
  rw [List.takeWhile_append_of_pos hfront, List.takeWhile_cons_of_neg (by simp), List.append_nil]

/-- What stands between the first two quotes. -/
def quoted? (text : Text) : Option Text :=
  (text.after? '"').map (·.takeWhile (· ≠ '"'))

theorem quoted?_append_cons {front value : Text} (hfront : '"' ∉ front) (hvalue : '"' ∉ value)
    (rest : Text) : quoted? (front ++ '"' :: (value ++ '"' :: rest)) = some value := by
  rw [quoted?, after?_append_cons hfront, Option.map_some, takeWhile_append_cons hvalue]

/-! ## Words -/

/-- A word occurs in a text when it is a contiguous part of it. -/
theorem occursIn_iff {needle text : Text} : occursIn needle text = true ↔ needle <:+: text := by
  induction text with
  | nil => rw [occursIn, List.isEmpty_iff, List.infix_nil]
  | cons c rest ih =>
    rw [occursIn, Bool.or_eq_true, List.isPrefixOf_iff_prefix, ih, List.infix_cons_iff]

/-- The text with `replacement` in the place of the first occurrence of `word`. -/
def replaceFirst (word replacement : Text) : Text → Text
  | [] => if word = [] then replacement else []
  | c :: rest =>
    if word.isPrefixOf (c :: rest) then replacement ++ (c :: rest).drop word.length
    else c :: replaceFirst word replacement rest

/-- No occurrence comes before the one that the text begins with. -/
theorem replaceFirst_append (word replacement rest : Text) :
    replaceFirst word replacement (word ++ rest) = replacement ++ rest := by
  cases htext : word ++ rest with
  | nil =>
    obtain ⟨rfl, rfl⟩ := List.append_eq_nil_iff.mp htext
    rw [replaceFirst, if_pos rfl, List.append_nil]
  | cons c back =>
    have hprefix : word.isPrefixOf (c :: back) = true := by
      rw [← htext, List.isPrefixOf_iff_prefix]
      exact List.prefix_append word rest
    rw [replaceFirst, if_pos hprefix, ← htext, List.drop_left]

end TutorialPages.Text
