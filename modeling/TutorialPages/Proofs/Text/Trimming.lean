import TutorialPages.Proofs.Text.Words

/-!
# Trimmed texts

A text is trimmed when it neither begins nor ends with a blank character. Blank space around a text
does not matter to its trimmed form (`trim_pad`), and every text is its trimmed form with blank
space around it (`exists_padding`), in one way only (`padding_unique`).
-/

namespace TutorialPages.Text

/-- The text neither begins nor ends with a blank character. -/
def IsTrimmed (text : Text) : Prop :=
  (∀ c ∈ text.head?, isBlank c = false) ∧ ∀ c ∈ text.getLast?, isBlank c = false

instance (text : Text) : Decidable (IsTrimmed text) :=
  decidable_of_iff ((text.head?.all (!isBlank ·) && text.getLast?.all (!isBlank ·)) = true)
    (by simp [IsTrimmed, Option.all_eq_true])

variable {text front back : Text}

theorem allBlank_iff : allBlank text = true ↔ ∀ c ∈ text, isBlank c = true :=
  List.all_eq_true

/-! ## Blank space around a text -/

theorem trimStart_of_allBlank (h : allBlank text = true) : trimStart text = [] :=
  List.dropWhile_eq_nil_iff.mpr (allBlank_iff.mp h)

theorem trimStart_pad (hfront : allBlank front = true) (text : Text) :
    trimStart (front ++ text) = trimStart text :=
  List.dropWhile_append_of_pos (allBlank_iff.mp hfront)

/-- The two ends of a text are trimmed in the same way. -/
theorem trimEnd_eq (text : Text) : trimEnd text = (trimStart text.reverse).reverse := rfl

theorem trimEnd_pad (hback : allBlank back = true) (text : Text) :
    trimEnd (text ++ back) = trimEnd text := by
  have hreverse : allBlank back.reverse = true := by
    rw [allBlank, List.all_reverse]
    exact hback
  rw [trimEnd_eq, List.reverse_append, trimStart_pad hreverse, ← trimEnd_eq]

/-- Blank space around a text does not matter to its trimmed form. -/
theorem trim_pad (hfront : allBlank front = true) (hback : allBlank back = true) (text : Text) :
    trim (front ++ text ++ back) = trim text := by
  rw [trim, List.append_assoc, trimStart_pad hfront]
  by_cases hempty : trimStart text = []
  · -- the text itself is blank, so the space behind it is dropped from the front
    have hblank : allBlank text = true := by
      rw [allBlank_iff]
      exact List.dropWhile_eq_nil_iff.mp hempty
    rw [trimStart_pad hblank, trimStart_of_allBlank hback, trim, hempty]
  · have hstart : trimStart (text ++ back) = trimStart text ++ back := by
      rw [trimStart, List.dropWhile_append, ← trimStart, if_neg (by simpa using hempty)]
    rw [hstart, trimEnd_pad hback, ← trim]

/-! ## Trimmed texts -/

theorem trimStart_eq_self (h : ∀ c ∈ text.head?, isBlank c = false) : trimStart text = text := by
  cases text with
  | nil => rfl
  | cons c rest => exact trimStart_cons (h c rfl) rest

theorem trimEnd_eq_self (h : ∀ c ∈ text.getLast?, isBlank c = false) : trimEnd text = text := by
  rw [← List.head?_reverse] at h
  rw [trimEnd_eq, trimStart_eq_self h, List.reverse_reverse]

/-- There is nothing to trim from a trimmed text. -/
theorem IsTrimmed.trim_eq (h : IsTrimmed text) : trim text = text := by
  rw [trim, trimStart_eq_self h.1, trimEnd_eq_self h.2]

theorem isTrimmed_of_not_blank (h : ∀ c ∈ text, isBlank c = false) : IsTrimmed text :=
  ⟨fun c hc => h c (List.mem_of_mem_head? hc), fun c hc => h c (List.mem_of_mem_getLast? hc)⟩

theorem IsWord.isTrimmed (h : IsWord text) : IsTrimmed text :=
  isTrimmed_of_not_blank h.2

/-- Only the outer ends of two texts that stand together matter. -/
theorem IsTrimmed.append {rest : Text} (htext : IsTrimmed text) (hne : text ≠ [])
    (hrest : IsTrimmed rest) (hne' : rest ≠ []) (between : Text) :
    IsTrimmed (text ++ (between ++ rest)) := by
  constructor
  · rw [List.head?_append, List.head?_eq_some_head hne, Option.some_or, ← List.head?_eq_some_head]
    exact htext.1
  · rw [← List.append_assoc, List.getLast?_append, List.getLast?_eq_some_getLast hne',
      Option.some_or, ← List.getLast?_eq_some_getLast]
    exact hrest.2

theorem isBlank_of_mem_head?_trimStart {c : Char} (h : c ∈ (trimStart text).head?) :
    isBlank c = false := by
  have hhead := List.head?_dropWhile_not isBlank text
  rw [← trimStart, Option.mem_def.mp h] at hhead
  exact hhead

theorem isTrimmed_trim (text : Text) : IsTrimmed (trim text) := by
  constructor
  · intro c hc
    -- what is dropped at the end leaves the first character as it is
    obtain ⟨back, -, hparts⟩ := trimEnd_append (trimStart text)
    have hhead : c ∈ (trimStart text).head? := by
      rw [← hparts, ← trim, List.head?_append, Option.mem_def.mp hc]
      rfl
    exact isBlank_of_mem_head?_trimStart hhead
  · intro c hc
    rw [trim, trimEnd_eq, List.getLast?_reverse] at hc
    exact isBlank_of_mem_head?_trimStart hc

/-! ## Cutting a text into its trimmed form and the space around it -/

/-- Every text is its trimmed form with blank space around it. -/
theorem exists_padding (text : Text) :
    ∃ front back, allBlank front = true ∧ allBlank back = true ∧
      text = front ++ trim text ++ back := by
  obtain ⟨back, hback, hparts⟩ := trimEnd_append (trimStart text)
  refine ⟨text.takeWhile isBlank, back, ?_, hback, ?_⟩
  · rw [allBlank_iff]
    exact fun c hc => List.mem_takeWhile_imp hc
  · rw [List.append_assoc, trim, hparts]
    exact List.takeWhile_append_dropWhile.symm

/-- The space before a text that does not begin with a blank character. -/
theorem takeWhile_isBlank_pad (hfront : allBlank front = true) (hne : text ≠ [])
    (h : ∀ c ∈ text.head?, isBlank c = false) :
    (front ++ text ++ back).takeWhile isBlank = front := by
  cases text with
  | nil => exact absurd rfl hne
  | cons c rest =>
    have hc : ¬isBlank c = true := by simp [h c rfl]
    rw [List.append_assoc, List.takeWhile_append_of_pos (allBlank_iff.mp hfront),
      List.cons_append, List.takeWhile_cons_of_neg hc, List.append_nil]

/-- A text is a trimmed one with blank space around it in one way only, unless it is blank. -/
theorem padding_unique {front' text' back' : Text}
    (hfront : allBlank front = true) (hback : allBlank back = true) (htext : IsTrimmed text)
    (hfront' : allBlank front' = true) (hback' : allBlank back' = true) (htext' : IsTrimmed text')
    (hne : text ≠ []) (h : front ++ text ++ back = front' ++ text' ++ back') :
    front = front' ∧ text = text' ∧ back = back' := by
  have hsame : text = text' := by
    rw [← htext.trim_eq, ← trim_pad hfront hback text, h, trim_pad hfront' hback', htext'.trim_eq]
  subst hsame
  have hstart : front = front' := calc
    front = (front ++ text ++ back).takeWhile isBlank :=
      (takeWhile_isBlank_pad hfront hne htext.1).symm
    _ = (front' ++ text ++ back').takeWhile isBlank := by rw [h]
    _ = front' := takeWhile_isBlank_pad hfront' hne htext.1
  subst hstart
  exact ⟨rfl, rfl, List.append_cancel_left h⟩

end TutorialPages.Text
