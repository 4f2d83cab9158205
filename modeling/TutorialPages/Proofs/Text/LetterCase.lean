import TutorialPages.Text.Blank
import TutorialPages.Text.LetterCase

/-!
# Words in capital letters

Two rules compare letter case: the full uppercase form, and the weaker rule that folds ASCII letters
only. What is the same word up to the case of ASCII letters has the same full uppercase form; for a
word in ASCII capitals this form is the word itself.
-/

namespace TutorialPages

/-- A capital letter of ASCII. -/
abbrev IsCapital (c : Char) : Prop :=
  65 ≤ c.toNat ∧ c.toNat ≤ 90

theorem toNat_toLower (c : Char) :
    c.toLower.toNat = if IsCapital c then c.toNat + 32 else c.toNat := by
  have hcapital : ('A'.val ≤ c.val ∧ c.val ≤ 'Z'.val) ↔ IsCapital c := Iff.rfl
  unfold Char.toLower
  split
  · next h =>
    rw [if_pos (hcapital.mp h)]
    have hle : c.val.toNat ≤ 90 := (hcapital.mp h).2
    show (c.val + 32).toNat = c.val.toNat + 32
    rw [UInt32.toNat_add]
    simp only [UInt32.reduceToNat, Nat.reducePow]
    omega
  · next h => rw [if_neg fun hc => h (hcapital.mpr hc)]

theorem toNat_toUpper (c : Char) :
    c.toUpper.toNat = if 97 ≤ c.toNat ∧ c.toNat ≤ 122 then c.toNat - 32 else c.toNat := by
  have hsmall : ('a'.val ≤ c.val ∧ c.val ≤ 'z'.val) ↔ 97 ≤ c.toNat ∧ c.toNat ≤ 122 := Iff.rfl
  unfold Char.toUpper
  split
  · next h =>
    rw [if_pos (hsmall.mp h)]
    have hle : c.val.toNat ≤ 122 := (hsmall.mp h).2
    have hge : 97 ≤ c.val.toNat := (hsmall.mp h).1
    -- the difference of the two letters is negative, so the sum wraps around
    show (c.val + 4294967264).toNat = c.val.toNat - 32
    rw [UInt32.toNat_add]
    simp only [UInt32.reduceToNat, Nat.reducePow]
    omega
  · next h => rw [if_neg fun hc => h (hsmall.mpr hc)]

/-- A character that is a capital letter up to case has it as its full uppercase form. -/
theorem upperChar_of_toLower_eq {c d : Char} (hd : IsCapital d) (h : d.toLower = c.toLower) :
    upperChar c = [d] := by
  have hcode := congrArg Char.toNat h
  rw [toNat_toLower, toNat_toLower, if_pos hd] at hcode
  -- the character is the capital letter or the small one below it, both in ASCII
  have hascii : c.toNat < 0x80 := by
    split at hcode <;> omega
  have hupper : c.toUpper = d := by
    apply Char.ext
    apply UInt32.toNat_inj.mp
    show c.toUpper.toNat = d.toNat
    rw [toNat_toUpper]
    split at hcode <;> split <;> omega
  rw [upperChar, if_pos hascii, hupper]

/-- The case of an ASCII letter does not matter to its full uppercase form. -/
theorem upperChar_congr {c d : Char} (h : c.toLower = d.toLower) : upperChar c = upperChar d := by
  by_cases hc : IsCapital c
  · rw [upperChar_of_toLower_eq hc rfl, upperChar_of_toLower_eq hc h]
  · by_cases hd : IsCapital d
    · rw [upperChar_of_toLower_eq hd h.symm, upperChar_of_toLower_eq hd rfl]
    · -- neither is a capital letter, so they are the same character
      have hcode := congrArg Char.toNat h
      rw [toNat_toLower, toNat_toLower, if_neg hc, if_neg hd] at hcode
      rw [Char.toNat_inj.mp hcode]

theorem isBlank_toLower (c : Char) : isBlank c.toLower = isBlank c := by
  by_cases hc : IsCapital c
  · -- no letter is blank
    have hcode : c.toLower.toNat = c.toNat + 32 := by rw [toNat_toLower, if_pos hc]
    have hletter : ∀ d : Char, 65 ≤ d.toNat → d.toNat ≤ 122 → isBlank d = false := by
      intro d hge hle
      simp only [isBlank, Bool.or_eq_false_iff, Bool.and_eq_false_iff, decide_eq_false_iff_not,
        beq_eq_false_iff_ne]
      omega
    obtain ⟨hge, hle⟩ := hc
    rw [hletter c (by omega) (by omega), hletter c.toLower (by omega) (by omega)]
  -- any other character is its own small form
  · have hcode : c.toLower.toNat = c.toNat := by rw [toNat_toLower, if_neg hc]
    rw [isBlank, isBlank, hcode]

/-- The case of an ASCII letter does not matter to whether it is blank. -/
theorem isBlank_congr {c d : Char} (h : c.toLower = d.toLower) : isBlank c = isBlank d := by
  rw [← isBlank_toLower c, h, isBlank_toLower]

namespace Text

/-- Words that are the same up to case are the same word as any other. -/
theorem sameWord_congr {left right : Text} (h : sameWord left right = true) (word : Text) :
    sameWord word left = sameWord word right := by
  simp only [sameWord, beq_iff_eq] at h
  rw [sameWord, sameWord, h]

theorem sameWord_comm (left right : Text) : sameWord left right = sameWord right left :=
  Bool.beq_comm

/-- The case of ASCII letters does not matter to the full uppercase form. -/
theorem toUpper_congr {left right : Text} (h : sameWord left right = true) :
    toUpper left = toUpper right := by
  simp only [sameWord, beq_iff_eq] at h
  induction left generalizing right with
  | nil =>
    rw [List.map_nil, eq_comm, List.map_eq_nil_iff] at h
    rw [h]
  -- the texts are of one length, since case changes no length here
  | cons c rest ih =>
    cases right with
    | nil => cases h
    | cons d others =>
      obtain ⟨hfirst, hrest⟩ := List.cons.inj h
      show upperChar c ++ toUpper rest = upperChar d ++ toUpper others
      rw [upperChar_congr hfirst, ih hrest]

/-- A word in capital letters is the full uppercase form of the words that are the same up to
case. -/
theorem toUpper_of_sameWord {word given : Text} (hword : ∀ c ∈ word, IsCapital c)
    (h : sameWord word given = true) : toUpper given = word := by
  rw [← toUpper_congr h, toUpper]
  clear h
  induction word with
  | nil => rfl
  | cons c rest ih =>
    rw [List.flatMap_cons, upperChar_of_toLower_eq (hword c List.mem_cons_self) rfl,
      ih fun d hd => hword d (List.mem_cons_of_mem c hd), List.singleton_append]

end Text

end TutorialPages
