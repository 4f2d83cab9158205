import Mathlib.Data.List.TakeWhile
import TutorialPages.Text.Blank

/-!
# Laws of words

The words of a text are what its blank characters separate: a blank character cuts a text in two
whose words follow each other (`words_append_cons`), and a text that holds none is a single word.
From these two it follows that words joined by spaces are read back (`words_joinWith`), and that
neither trimming nor anything else about the spacing of a text changes its words.
-/

namespace TutorialPages.Text

/-- A text that is a word: it is not empty and holds no blank character. -/
def IsWord (text : Text) : Prop :=
  text ≠ [] ∧ ∀ c ∈ text, isBlank c = false

instance (text : Text) : Decidable (IsWord text) :=
  decidable_of_iff ((!text.isEmpty && text.all (!isBlank ·)) = true) (by simp [IsWord])

variable {text word : Text} {c : Char}

theorem isWord_singleton (h : isBlank c = false) : IsWord [c] := by
  refine ⟨List.cons_ne_nil c [], ?_⟩
  intro d hd
  rw [List.mem_singleton.mp hd]
  exact h

theorem IsWord.cons (hc : isBlank c = false) (hword : IsWord word) : IsWord (c :: word) := by
  refine ⟨List.cons_ne_nil c word, ?_⟩
  intro d hd
  rcases List.mem_cons.mp hd with rfl | hd
  · exact hc
  · exact hword.2 d hd

/-! ## The first character -/

theorem words_cons_of_blank (h : isBlank c = true) (rest : Text) :
    words (c :: rest) = words rest := by
  rw [words.eq_def]
  exact if_pos h

/-- A text that begins with a word has a first word, and a further character in front joins it. -/
theorem words_cons_of_not_blank {d : Char} (hc : isBlank c = false) (hd : isBlank d = false)
    (rest : Text) :
    ∃ first others, words (d :: rest) = first :: others ∧
      words (c :: d :: rest) = (c :: first) :: others := by
  -- what follows the first character decides whether it is a word of its own
  have hfirst : ∃ first others, words (d :: rest) = first :: others := by
    cases rest with
    | nil => exact ⟨[d], [], by simp [words, hd]⟩
    | cons e rest =>
      cases he : isBlank e with
      | true => exact ⟨[d], words (e :: rest), by simp [words, hd, he]⟩
      | false =>
        cases hwords : words (e :: rest) with
        | nil => exact ⟨[d], [], by rw [words]; simp [hd, he, hwords]⟩
        | cons word others => exact ⟨d :: word, others, by rw [words]; simp [hd, he, hwords]⟩
  obtain ⟨first, others, hwords⟩ := hfirst
  refine ⟨first, others, hwords, ?_⟩
  rw [words]
  simp [hc, hd, hwords]

/-! ## Cutting a text in two -/

/-- A blank character separates the words before it from those behind it. -/
theorem words_append_cons (front : Text) (h : isBlank c = true) (back : Text) :
    words (front ++ c :: back) = words front ++ words back := by
  induction front with
  | nil => exact words_cons_of_blank h back
  | cons a front ih =>
    cases ha : isBlank a with
    | true =>
      rw [List.cons_append, words_cons_of_blank ha, words_cons_of_blank ha, ih]
    | false =>
      cases front with
      | nil =>
        -- a word of one character right before the cut
        rw [List.singleton_append, words]
        simp [words, ha, h]
      | cons b front =>
        cases hb : isBlank b with
        | true =>
          have hcut : words (a :: b :: (front ++ c :: back)) =
              [a] :: words (b :: (front ++ c :: back)) := by
            rw [words]
            simp [ha, hb]
          have hfront : words (a :: b :: front) = [a] :: words (b :: front) := by
            rw [words]
            simp [ha, hb]
          rw [List.cons_append] at ih
          rw [List.cons_append, List.cons_append, hcut, hfront, ih, List.cons_append]
        | false =>
          -- the character joins the first word, which lies before the cut on both sides
          obtain ⟨first, others, hfront, hjoined⟩ := words_cons_of_not_blank ha hb front
          obtain ⟨first', others', hcut, hjoined'⟩ :=
            words_cons_of_not_blank ha hb (front ++ c :: back)
          rw [List.cons_append, hcut, hfront, List.cons_append] at ih
          obtain ⟨rfl, rfl⟩ := List.cons.inj ih
          rw [List.cons_append, List.cons_append, hjoined', hjoined, List.cons_append]

theorem words_eq_nil_of_allBlank (h : allBlank text = true) : words text = [] := by
  induction text with
  | nil => rfl
  | cons c rest ih =>
    rw [allBlank, List.all_cons, Bool.and_eq_true] at h
    rw [words_cons_of_blank h.1]
    exact ih h.2

/-- Blank characters at the end belong to no word. -/
theorem words_append_of_allBlank (front : Text) {back : Text} (h : allBlank back = true) :
    words (front ++ back) = words front := by
  cases back with
  | nil => rw [List.append_nil]
  | cons c back =>
    rw [allBlank, List.all_cons, Bool.and_eq_true] at h
    rw [words_append_cons front h.1, words_eq_nil_of_allBlank h.2, List.append_nil]

/-! ## Trimming -/

theorem words_trimStart (text : Text) : words (trimStart text) = words text := by
  induction text with
  | nil => rfl
  | cons c rest ih =>
    cases hc : isBlank c with
    | true =>
      rw [words_cons_of_blank hc, ← ih, trimStart, List.dropWhile_cons_of_pos hc]
      rfl
    | false =>
      rw [trimStart, List.dropWhile_cons_of_neg (by simp [hc])]

/-- What trimming drops at the end is blank. -/
theorem trimEnd_append (text : Text) :
    ∃ back, allBlank back = true ∧ trimEnd text ++ back = text := by
  refine ⟨(text.reverse.takeWhile isBlank).reverse, ?_, ?_⟩
  · rw [allBlank, List.all_reverse, List.all_eq_true]
    exact fun c hc => List.mem_takeWhile_imp hc
  · rw [trimEnd, ← List.reverse_append, List.takeWhile_append_dropWhile, List.reverse_reverse]

theorem words_trimEnd (text : Text) : words (trimEnd text) = words text := by
  obtain ⟨back, hback, htext⟩ := trimEnd_append text
  have hwords := words_append_of_allBlank (trimEnd text) hback
  rw [htext] at hwords
  exact hwords.symm

theorem words_trim (text : Text) : words (trim text) = words text := by
  rw [trim, words_trimEnd, words_trimStart]

theorem trimStart_cons (h : isBlank c = false) (rest : Text) : trimStart (c :: rest) = c :: rest :=
  List.dropWhile_cons_of_neg (by simp [h])

theorem trimEnd_concat (h : isBlank c = false) (front : Text) :
    trimEnd (front ++ [c]) = front ++ [c] := by
  have hreverse : (front ++ [c]).reverse = c :: front.reverse := List.reverse_concat
  calc trimEnd (front ++ [c]) = (trimStart (front ++ [c]).reverse).reverse := rfl
    _ = (front ++ [c]).reverse.reverse := by rw [hreverse, trimStart_cons h]
    _ = front ++ [c] := List.reverse_reverse _

/-! ## What a word is -/

/-- The words of a text are words. -/
theorem isWord_of_mem_words (h : word ∈ words text) : IsWord word := by
  induction text generalizing word with
  | nil => cases h
  | cons c rest ih =>
    cases hc : isBlank c with
    | true =>
      rw [words_cons_of_blank hc] at h
      exact ih h
    | false =>
      cases rest with
      -- the character is the whole text, or stands before a blank one, or belongs to a longer word
      | nil =>
        have hword : word = [c] := by simpa [words, hc] using h
        rw [hword]
        exact isWord_singleton hc
      | cons d rest =>
        cases hd : isBlank d with
        | true =>
          rw [words] at h
          simp only [hc, hd, Bool.false_eq_true, ↓reduceIte, List.mem_cons] at h
          rcases h with rfl | h
          · exact isWord_singleton hc
          · exact ih h
        | false =>
          -- the first word is one of the rest with the character in front
          obtain ⟨first, others, hrest, hwords⟩ := words_cons_of_not_blank hc hd rest
          rw [hrest] at ih
          rw [hwords] at h
          rcases List.mem_cons.mp h with rfl | h
          · exact (ih (List.mem_cons_self ..)).cons hc
          · exact ih (List.mem_cons_of_mem _ h)

/-- A text that is a word has itself as its only word. -/
theorem words_of_isWord (h : IsWord text) : words text = [text] := by
  induction text with
  | nil => exact absurd rfl h.1
  | cons c rest ih =>
    have hc : isBlank c = false := h.2 c (List.mem_cons_self ..)
    cases rest with
    | nil => simp [words, hc]
    | cons d rest =>
      have hrest : IsWord (d :: rest) :=
        ⟨List.cons_ne_nil d rest, fun e he => h.2 e (List.mem_cons_of_mem c he)⟩
      have hd : isBlank d = false := hrest.2 d (List.mem_cons_self ..)
      obtain ⟨first, others, hwords, hjoined⟩ := words_cons_of_not_blank hc hd rest
      -- the rest is one word, so the character joins it
      rw [ih hrest] at hwords
      obtain ⟨rfl, rfl⟩ := List.cons.inj hwords
      exact hjoined

/-- Words with single spaces between them are read back. -/
theorem words_joinWith (given : List Text) (h : ∀ word ∈ given, IsWord word) :
    words (joinWith [' '] given) = given := by
  induction given with
  | nil => rfl
  | cons first others ih =>
    have hfirst : words first = [first] := words_of_isWord (h first (List.mem_cons_self ..))
    have hothers := ih fun word hword => h word (List.mem_cons_of_mem first hword)
    cases others with
    | nil => exact hfirst
    | cons second others =>
      have hjoin : joinWith [' '] (first :: second :: others) =
          first ++ ' ' :: joinWith [' '] (second :: others) := by
        simp [joinWith]
      rw [hjoin, words_append_cons first (by decide), hfirst, hothers, List.singleton_append]

/-- Of all characters the words keep those that are not blank. -/
theorem flatten_words (text : Text) : (words text).flatten = text.filter (!isBlank ·) := by
  induction text with
  | nil => rfl
  | cons c rest ih =>
    cases hc : isBlank c with
    | true => rw [words_cons_of_blank hc, ih, List.filter_cons_of_neg (by simp [hc])]
    | false =>
      rw [List.filter_cons_of_pos (by simp [hc]), ← ih]
      -- the character is a word of its own, or the front of the first one
      cases rest with
      | nil => simp [words, hc]
      | cons d rest =>
        cases hd : isBlank d with
        | true =>
          rw [words]
          simp [hc, hd]
        | false =>
          obtain ⟨first, others, hrest, hwords⟩ := words_cons_of_not_blank hc hd rest
          rw [hwords, hrest, List.flatten_cons, List.flatten_cons, List.cons_append]

end TutorialPages.Text
