import Mathlib.Algebra.Group.Int.Defs
import TutorialPages.Proofs.Text.Words
import TutorialPages.Text.Integer

/-!
# Integers in decimal

The decimal form of an integer is read back to that integer, for every integer of 64 bits up to
both limits of the range, and it is a word: a directive line keeps it in one piece. What is read at
all is a text that `Spells` an integer within the range, whatever number of digits it has.
-/

namespace TutorialPages.Text

/-! ## Digits -/

/-- Decimal digits of ASCII, at least one of them. -/
def AreDigits (text : Text) : Prop :=
  text ≠ [] ∧ ∀ c ∈ text, c.isDigit = true

/-- Digits are read from the front, each one below those before it. -/
theorem digitsValue?_of_isDigit (digits : Text) (h : ∀ c ∈ digits, c.isDigit = true)
    (high : Nat) : digitsValue? high digits = some (Nat.ofDigitChars 10 digits high) := by
  induction digits generalizing high with
  | nil => rfl
  | cons c rest ih =>
    have hc : c.isDigit = true := h c (List.mem_cons_self ..)
    have hrest := ih fun d hd => h d (List.mem_cons_of_mem c hd)
    rw [digitsValue?, if_pos hc, hrest, Nat.ofDigitChars_cons]
    rfl

/-- Reading digits stops at any other character. -/
theorem isDigit_of_digitsValue? {high n : Nat} {text : Text}
    (h : digitsValue? high text = some n) : ∀ c ∈ text, c.isDigit = true := by
  induction text generalizing high with
  | nil => simp
  | cons c rest ih =>
    rw [digitsValue?] at h
    split at h
    · next hc =>
      intro d hd
      rcases List.mem_cons.mp hd with rfl | hd
      · exact hc
      · exact ih h d hd
    · cases h

/-- A natural number is read from digits, each one worth ten of the next. -/
theorem natural?_eq_some_iff {text : Text} {n : Nat} :
    natural? text = some n ↔ AreDigits text ∧ n = Nat.ofDigitChars 10 text 0 := by
  cases text with
  | nil => simp [natural?, AreDigits]
  | cons c rest =>
    rw [natural?]
    constructor
    · intro h
      have hdigits := isDigit_of_digitsValue? h
      rw [digitsValue?_of_isDigit _ hdigits] at h
      exact ⟨⟨List.cons_ne_nil c rest, hdigits⟩, (Option.some.inj h).symm⟩
    · rintro ⟨hdigits, rfl⟩
      exact digitsValue?_of_isDigit _ hdigits.2 0

/-! ## Signs -/

/-- A text spells an integer: after at most one sign it has digits, and nothing behind them. -/
inductive Spells : Text → Int → Prop where
  | plain {digits : Text} (h : AreDigits digits) : Spells digits (Nat.ofDigitChars 10 digits 0)
  | plus {digits : Text} (h : AreDigits digits) :
      Spells ('+' :: digits) (Nat.ofDigitChars 10 digits 0)
  | minus {digits : Text} (h : AreDigits digits) :
      Spells ('-' :: digits) (-(Nat.ofDigitChars 10 digits 0 : Int))

/-- An integer is read from the texts that spell it. -/
theorem integer?_eq_some_iff {text : Text} {n : Int} : integer? text = some n ↔ Spells text n := by
  constructor
  -- whatever the sign does to the value, it comes from the digits behind it
  · have hread : ∀ (digits : Text) (sign : Int → Int),
        Option.map sign (do return ((← natural? digits : Nat) : Int)) = some n →
          AreDigits digits ∧ sign (Nat.ofDigitChars 10 digits 0) = n := by
      intro digits sign h
      cases hnatural : natural? digits with
      | none => simp [hnatural] at h
      | some value =>
        obtain ⟨hdigits, rfl⟩ := natural?_eq_some_iff.mp hnatural
        exact ⟨hdigits, by simpa [hnatural] using h⟩
    intro h
    unfold integer? at h
    split at h
    · obtain ⟨hdigits, rfl⟩ := hread _ _ h
      exact .minus hdigits
    · obtain ⟨hdigits, rfl⟩ := hread _ _ h
      exact .plus hdigits
    · obtain ⟨hdigits, rfl⟩ := hread _ _ h
      exact .plain hdigits
  -- a text that is spelled takes the branch of its sign
  · intro h
    cases h with
    | plus hdigits =>
      rw [integer?, natural?_eq_some_iff.mpr ⟨hdigits, rfl⟩]
      rfl
    | minus hdigits =>
      rw [integer?, natural?_eq_some_iff.mpr ⟨hdigits, rfl⟩]
      rfl
    | plain hdigits =>
      -- neither sign is a digit
      unfold integer?
      split
      · exact absurd (hdigits.2 '-' List.mem_cons_self) (by decide)
      · exact absurd (hdigits.2 '+' List.mem_cons_self) (by decide)
      · rw [natural?_eq_some_iff.mpr ⟨hdigits, rfl⟩]
        rfl

/-! ## The range of 64 bits -/

/-- A 64-bit integer is read exactly from the texts that spell it. -/
theorem int64?_eq_some_iff {text : Text} {value : Int64} :
    int64? text = some value ↔ Spells text value.toInt := by
  rw [← integer?_eq_some_iff, int64?]
  cases hinteger : integer? text with
  | none => simp
  | some n =>
    simp only [Option.ite_none_right_eq_some, Option.some.injEq]
    constructor
    -- within the bounds nothing wraps around
    · rintro ⟨⟨hlow, hhigh⟩, rfl⟩
      rw [Int64.toInt_minValue] at hlow
      rw [Int64.toInt_maxValue] at hhigh
      exact (Int64.toInt_ofInt_of_le hlow (by omega)).symm
    · rintro rfl
      exact ⟨⟨value.minValue_le_toInt, value.toInt_le⟩, value.ofInt_toInt⟩

/-- An integer out of range is not read, and neither is a text that spells none. -/
theorem int64?_eq_none_iff {text : Text} :
    int64? text = none ↔ ∀ n, Spells text n → ¬(-2 ^ 63 ≤ n ∧ n ≤ 2 ^ 63 - 1) := by
  rw [Option.eq_none_iff_forall_ne_some]
  simp only [ne_eq, int64?_eq_some_iff]
  constructor
  · rintro h n hn ⟨hlow, hhigh⟩
    apply h (Int64.ofInt n)
    rw [Int64.toInt_ofInt_of_le hlow (by omega)]
    exact hn
  · intro h value hvalue
    apply h value.toInt hvalue
    rw [← Int64.toInt_minValue, ← Int64.toInt_maxValue]
    exact ⟨value.minValue_le_toInt, value.toInt_le⟩

/-! ## Numbers as they are written -/

theorem areDigits_ofNat (n : Nat) : AreDigits (ofNat n) :=
  ⟨Nat.toDigits_ne_nil, fun _ hc => Nat.isDigit_of_mem_toDigits (by decide) (by decide) hc⟩

/-- The decimal form of an integer spells it. -/
theorem spells_ofInt (n : Int) : Spells (ofInt n) n := by
  have hdigits : ∀ m : Nat, Nat.ofDigitChars 10 (ofNat m) 0 = m :=
    fun m => Nat.ofDigitChars_ten_toDigits
  cases n with
  | ofNat n =>
    have hplain := Spells.plain (areDigits_ofNat n)
    rw [hdigits] at hplain
    exact hplain
  | negSucc n =>
    have hminus := Spells.minus (areDigits_ofNat (n + 1))
    rw [hdigits] at hminus
    exact hminus

example : int64? "-9223372036854775808".toList = some Int64.minValue := by decide +kernel

/-! ## Numbers as words -/

/-- A digit is not blank. -/
theorem isBlank_of_isDigit {c : Char} (h : c.isDigit = true) : isBlank c = false := by
  have hrange : 48 ≤ c.toNat ∧ c.toNat ≤ 57 := by
    simpa [Char.isDigit, UInt32.le_iff_toNat_le] using h
  simp only [isBlank, Bool.or_eq_false_iff, Bool.and_eq_false_iff, decide_eq_false_iff_not,
    beq_eq_false_iff_ne]
  omega

theorem isWord_ofNat (n : Nat) : IsWord (ofNat n) :=
  ⟨(areDigits_ofNat n).1, fun c hc => isBlank_of_isDigit ((areDigits_ofNat n).2 c hc)⟩

theorem isWord_ofInt (n : Int) : IsWord (ofInt n) := by
  cases n with
  | ofNat n => exact isWord_ofNat n
  | negSucc n => exact (isWord_ofNat (n + 1)).cons (by decide)

end TutorialPages.Text
