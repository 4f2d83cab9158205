import TutorialPages.Text.Basic

/-!
# Decimal integers of 64 bits

A number is written as one optional sign and at least one ASCII digit; it is read when its value
fits into 64 bits with sign. Printing writes a minus sign for negative numbers and no leading
zeros.
-/

namespace TutorialPages.Text

/-- The value of a run of decimal digits that follow the digits of `high`. -/
def digitsValue? (high : Nat) : Text → Option Nat
  | [] => some high
  | c :: rest => if c.isDigit then digitsValue? (10 * high + (c.toNat - 48)) rest else none

/-- The value of at least one decimal digit. -/
def natural? : Text → Option Nat
  | [] => none
  | c :: rest => digitsValue? 0 (c :: rest)

/-- The integer that one optional sign and at least one digit spell. -/
def integer? : Text → Option Int
  | '-' :: digits => (natural? digits).map fun n => -(n : Int)
  | '+' :: digits => (natural? digits).map fun n => (n : Int)
  | digits => (natural? digits).map fun n => (n : Int)

/-- The 64-bit integer that the text spells, when its value lies in range. -/
def int64? (text : Text) : Option Int64 :=
  match integer? text with
  | some n =>
    if Int64.minValue.toInt ≤ n ∧ n ≤ Int64.maxValue.toInt then some (Int64.ofInt n) else none
  | none => none

/-- The decimal form of an integer. -/
def ofInt : Int → Text
  | .ofNat n => ofNat n
  | .negSucc n => '-' :: ofNat (n + 1)

end TutorialPages.Text
