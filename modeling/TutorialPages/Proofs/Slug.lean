import Mathlib.Data.List.Basic
import TutorialPages.Proofs.Text.Lowercase
import TutorialPages.Proofs.Text.Trimming
import TutorialPages.Slug

/-!
# The characters of slugs

Every character of a slug has come through the filter, so none of them means anything to HTML. The
filter and the lowercase form leave such a character as it is, so the slug of a slug is the slug
itself; and since no space is looked over, the slug of two phrases is made of their slugs.
-/

namespace TutorialPages

/-- The characters that HTML gives a meaning inside a quoted attribute or a tag. -/
def markup : List Char :=
  ['&', '<', '>', '"']

/-- The punctuation of ASCII. -/
def IsAsciiPunctuation (c : Char) : Prop :=
  (33 ≤ c.toNat ∧ c.toNat ≤ 47) ∨ (58 ≤ c.toNat ∧ c.toNat ≤ 64) ∨
    (91 ≤ c.toNat ∧ c.toNat ≤ 96) ∨ (123 ≤ c.toNat ∧ c.toNat ≤ 126)

instance (c : Char) : Decidable (IsAsciiPunctuation c) :=
  inferInstanceAs (Decidable (_ ∨ _ ∨ _ ∨ _))

namespace Slug

variable {c d : Char} {text : Text}

/-- What comes through the filter is a hyphen, in the place of a blank character, or the character
itself, when it is neither dropped nor blank. -/
theorem of_mapChar?_eq_some (h : mapChar? c = some d) :
    d = '-' ∨ d = c ∧ isDropped c = false ∧ isBlank c = false := by
  unfold mapChar? at h
  split at h
  · cases h
  · next hkept =>
    split at h
    · exact .inl (Option.some.inj h).symm
    · next hvisible =>
      exact .inr ⟨(Option.some.inj h).symm, by simpa using hkept, by simpa using hvisible⟩

theorem of_mem_ofText (h : c ∈ ofText text) :
    c = '-' ∨ lowerChar c = [c] ∧ isDropped c = false ∧ isBlank c = false := by
  obtain ⟨before, hbefore, hmap⟩ := List.mem_filterMap.mp h
  rcases of_mapChar?_eq_some hmap with hhyphen | ⟨rfl, hkept, hvisible⟩
  · exact .inl hhyphen
  · exact .inr ⟨Text.lowerChar_of_mem_toLower hbefore, hkept, hvisible⟩

theorem not_isDropped_of_mem (h : c ∈ ofText text) : isDropped c = false := by
  rcases of_mem_ofText h with rfl | ⟨-, hkept, -⟩
  · decide
  · exact hkept

theorem isBlank_of_mem (h : c ∈ ofText text) : isBlank c = false := by
  rcases of_mem_ofText h with rfl | ⟨-, -, hvisible⟩
  · decide
  · exact hvisible

theorem lowerChar_of_mem (h : c ∈ ofText text) : lowerChar c = [c] := by
  rcases of_mem_ofText h with rfl | ⟨hlower, -, -⟩
  · decide
  · exact hlower

theorem isDropped_of_mem_markup (h : c ∈ markup) : isDropped c = true := by
  simp only [markup, List.mem_cons, List.not_mem_nil, or_false] at h
  rcases h with rfl | rfl | rfl | rfl <;> decide

theorem not_mem_markup_of_mem (h : c ∈ ofText text) : c ∉ markup := by
  intro hmark
  have hdropped := isDropped_of_mem_markup hmark
  rw [not_isDropped_of_mem h] at hdropped
  exact absurd hdropped (by decide)

/-! ## The slug of a slug -/

theorem mapChar?_of_mem (h : c ∈ ofText text) : mapChar? c = some c := by
  simp [mapChar?, not_isDropped_of_mem h, isBlank_of_mem h]

/-- The slug of a slug is the slug itself. -/
theorem ofText_ofText (text : Text) : ofText (ofText text) = ofText text := by
  have htrim : Text.trim (ofText text) = ofText text :=
    (Text.isTrimmed_of_not_blank fun c hc => isBlank_of_mem hc).trim_eq
  have hlower : Text.toLower (ofText text) = ofText text :=
    Text.toLower_eq_self fun c hc => lowerChar_of_mem hc
  calc ofText (ofText text) = (ofText text).filterMap mapChar? := by rw [ofText, htrim, hlower]
    _ = (ofText text).filterMap some := List.filterMap_congr fun c hc => mapChar?_of_mem hc
    _ = ofText text := List.filterMap_some

/-! ## Spaces -/

/-- The slug of two phrases with a space between them. -/
theorem ofText_append_space {first second : Text} (hfirst : Text.IsTrimmed first)
    (hne : first ≠ []) (hsecond : Text.IsTrimmed second) (hne' : second ≠ []) :
    ofText (first ++ ' ' :: second) = ofText first ++ '-' :: ofText second := by
  have htrim : Text.trim (first ++ ' ' :: second) = first ++ ' ' :: second :=
    (hfirst.append hne hsecond hne' [' ']).trim_eq
  have hhyphen : mapChar? ' ' = some '-' := by decide
  rw [ofText, ofText, ofText, htrim, hfirst.trim_eq, hsecond.trim_eq, Text.toLower_append_space,
    List.filterMap_append, List.filterMap_cons_some hhyphen]

/-! ## Clean and stable -/

/-- A character that may stand in a slug. -/
structure IsClean (c : Char) : Prop where
  not_blank : isBlank c = false
  not_capital : ¬IsCapital c
  punctuation : IsAsciiPunctuation c → c = '-' ∨ c = '_'
  not_general : ¬(0x2000 ≤ c.toNat ∧ c.toNat ≤ 0x206F)
  not_supplemental : ¬(0x2E00 ≤ c.toNat ∧ c.toNat ≤ 0x2E7F)

/-- Of the punctuation of ASCII only hyphen and underscore are kept. -/
theorem eq_of_isAsciiPunctuation (h : IsAsciiPunctuation c) (hkept : isDropped c = false) :
    c = '-' ∨ c = '_' := by
  have hall : ∀ n < 127, IsAsciiPunctuation (Char.ofNat n) → isDropped (Char.ofNat n) = false →
      Char.ofNat n = '-' ∨ Char.ofNat n = '_' := by
    decide +kernel
  have hc := hall c.toNat (by unfold IsAsciiPunctuation at h; omega)
  rw [Char.ofNat_toNat] at hc
  exact hc h hkept

theorem isClean_of_mem (h : c ∈ ofText text) : IsClean c := by
  have hkept := not_isDropped_of_mem h
  have hblocks := hkept
  simp only [isDropped, Bool.or_eq_false_iff, Bool.and_eq_false_iff, decide_eq_false_iff_not]
    at hblocks
  obtain ⟨⟨hgeneral, hsupplemental⟩, -⟩ := hblocks
  exact {
    not_blank := isBlank_of_mem h
    not_capital := not_isCapital_of_lowerChar (lowerChar_of_mem h)
    punctuation := fun hpunctuation => eq_of_isAsciiPunctuation hpunctuation hkept
    not_general := by omega
    not_supplemental := by omega }

/-- A slug holds clean characters only and is its own slug; blank space around the text does not
matter to it; and the slugs of two phrases with a space between them are joined by a hyphen. -/
theorem ofText_clean_and_stable (text : Text) :
    (∀ c ∈ ofText text, IsClean c) ∧
    ofText (ofText text) = ofText text ∧
    (∀ front back : Text, Text.allBlank front = true → Text.allBlank back = true →
      ofText (front ++ text ++ back) = ofText text) ∧
    ∀ first second : Text, first ≠ [] → Text.IsTrimmed first → second ≠ [] →
      Text.IsTrimmed second →
      ofText (first ++ ' ' :: second) = ofText first ++ '-' :: ofText second := by
  refine ⟨fun c hc => isClean_of_mem hc, ofText_ofText text, ?_, ?_⟩
  · intro front back hfront hback
    rw [ofText, Text.trim_pad hfront hback, ofText]
  · intro first second hne hfirst hne' hsecond
    exact ofText_append_space hfirst hne hsecond hne'

/-- A capital sigma ends its word in front of a space, and begins one behind it. -/
theorem ofText_clean_and_stable_sigmas :
    ofText "ΟΔΟΣ".toList = "οδος".toList ∧ IsClean 'ς' ∧
    ofText ("\u2003 ".toList ++ "ΟΔΟΣ".toList ++ "\n".toList) = "οδος".toList ∧
    ofText ("ΟΔΟΣ".toList ++ ' ' :: "ΣΟΥ".toList) = "οδος".toList ++ '-' :: "σου".toList := by
  obtain ⟨hclean, -, hpad, hspace⟩ := ofText_clean_and_stable "ΟΔΟΣ".toList
  have hfirst : ofText "ΟΔΟΣ".toList = "οδος".toList := by decide +kernel
  have hsecond : ofText "ΣΟΥ".toList = "σου".toList := by decide +kernel
  refine ⟨hfirst, hclean 'ς' (by rw [hfirst]; decide), ?_, ?_⟩
  · rw [hpad "\u2003 ".toList "\n".toList (by decide) (by decide), hfirst]
  · rw [hspace _ _ (by decide) (by decide) (by decide) (by decide), hfirst, hsecond]

end Slug

end TutorialPages
