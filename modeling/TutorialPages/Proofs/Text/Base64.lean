import Mathlib.Data.Option.Basic
import TutorialPages.Text.Base64

/-!
# Base64 is read back

Padded base64 is read in groups of four characters, each of which stands for six bits. Only the last
group may be filled up, and the bits that it does not need are zero. Read in this way bytes have
exactly one text that stands for them, the one that encoding gives.
-/

namespace TutorialPages.Base64

/-! ## Reading base64 -/

/-- The standard alphabet, in the order of the values. -/
def alphabet : Text :=
  "ABCDEFGHIJKLMNOPQRSTUVWXYZabcdefghijklmnopqrstuvwxyz0123456789+/"

/-- The six bits that a character stands for. -/
def value? (c : Char) : Option Nat :=
  alphabet.idxOf? c

/-- The byte that begins with the first six bits of a group. -/
def leading (first second : Nat) : UInt8 :=
  .ofNat (first * 4 + second / 16)

/-- The byte in the middle of a group. -/
def middle (second third : Nat) : UInt8 :=
  .ofNat (second % 16 * 16 + third / 4)

/-- The byte that ends with the last six bits of a group. -/
def trailing (third fourth : Nat) : UInt8 :=
  .ofNat (third % 4 * 64 + fourth)

/-- The bytes that a text stands for, if it is padded base64. -/
def decode? : Text → Option (List UInt8)
  | [] => some []
  | a :: b :: c :: d :: rest => do
    let first ← value? a
    let second ← value? b
    if d = '=' then
      guard (rest = [])
      if c = '=' then
        guard (second % 16 = 0)
        return [leading first second]
      else
        let third ← value? c
        guard (third % 4 = 0)
        return [leading first second, middle second third]
    else
      let third ← value? c
      let fourth ← value? d
      let others ← decode? rest
      return leading first second :: middle second third :: trailing third fourth :: others
  | _ => none

/-! ## The alphabet -/

theorem getElem?_alphabet : ∀ sextet < 64, alphabet[sextet]? = some (symbol sextet) := by
  decide +kernel

theorem value?_symbol : ∀ sextet < 64, value? (symbol sextet) = some sextet := by
  decide +kernel

theorem symbol_ne_fill : ∀ sextet < 64, symbol sextet ≠ '=' := by
  decide +kernel

/-- A character stands for the six bits whose symbol it is. -/
theorem value?_eq_some_iff {c : Char} {sextet : Nat} :
    value? c = some sextet ↔ sextet < 64 ∧ symbol sextet = c := by
  constructor
  · intro h
    obtain ⟨hplace, hc, -⟩ := List.idxOf?_eq_some_iff.mp h
    have hbound : sextet < 64 := hplace
    have hsymbol := getElem?_alphabet sextet hbound
    rw [List.getElem?_eq_getElem hplace, hc] at hsymbol
    exact ⟨hbound, (Option.some.inj hsymbol).symm⟩
  · rintro ⟨hbound, rfl⟩
    exact value?_symbol sextet hbound

/-! ## Groups of four characters -/

theorem toNat_leading {first second : Nat} (hfirst : first < 64) (hsecond : second < 64) :
    (leading first second).toNat = first * 4 + second / 16 :=
  UInt8.toNat_ofNat_of_lt' (show first * 4 + second / 16 < 256 by omega)

theorem toNat_middle {second third : Nat} (hthird : third < 64) :
    (middle second third).toNat = second % 16 * 16 + third / 4 :=
  UInt8.toNat_ofNat_of_lt' (show second % 16 * 16 + third / 4 < 256 by omega)

theorem toNat_trailing {third fourth : Nat} (hfourth : fourth < 64) :
    (trailing third fourth).toNat = third % 4 * 64 + fourth :=
  UInt8.toNat_ofNat_of_lt' (show third % 4 * 64 + fourth < 256 by omega)

/-! ## Encoding, then reading -/

/-- What is encoded is read back. -/
theorem decode?_encode (bytes : List UInt8) : decode? (encode bytes) = some bytes := by
  -- along the recursion of the encoder: one byte is left, or two, or a whole group and more
  induction bytes using encode.induct with
  | case1 => rfl
  | case2 a =>
    -- two symbols stand for the byte, the second with four zero bits at its end
    have ha := a.toNat_lt
    have hfirst := value?_symbol (a.toNat * 16 / 64) (by omega)
    have hsecond := value?_symbol (a.toNat * 16 % 64) (by omega)
    have hleading : leading (a.toNat * 16 / 64) (a.toNat * 16 % 64) = a := by
      rw [← UInt8.toNat_inj, toNat_leading (by omega) (by omega)]
      omega
    have hzero : a.toNat * 16 % 64 % 16 = 0 := by omega
    simp [encode, decode?, guard, hfirst, hsecond, hleading, hzero]
  | case3 a b =>
    -- three symbols stand for the bytes, the third with two zero bits at its end
    have ha := a.toNat_lt
    have hb := b.toNat_lt
    let n := (a.toNat * 256 + b.toNat) * 4
    have hfirst := value?_symbol (n / 4096) (by omega)
    have hsecond := value?_symbol (n / 64 % 64) (by omega)
    have hthird := value?_symbol (n % 64) (by omega)
    have hsymbol := symbol_ne_fill (n % 64) (by omega)
    have hleading : leading (n / 4096) (n / 64 % 64) = a := by
      rw [← UInt8.toNat_inj, toNat_leading (by omega) (by omega)]
      omega
    have hmiddle : middle (n / 64 % 64) (n % 64) = b := by
      rw [← UInt8.toNat_inj, toNat_middle (by omega)]
      omega
    have hzero : n % 64 % 4 = 0 := by omega
    simp only [encode]
    simp [decode?, guard, n, hfirst, hsecond, hthird, hsymbol, hleading, hmiddle, hzero]
  | case4 a b c rest ih =>
    -- four symbols stand for three bytes, and nothing is filled up
    let n := (a.toNat * 256 + b.toNat) * 256 + c.toNat
    have ha := a.toNat_lt
    have hb := b.toNat_lt
    have hc := c.toNat_lt
    have hfirst := value?_symbol (n / 262144) (by omega)
    have hsecond := value?_symbol (n / 4096 % 64) (by omega)
    have hthird := value?_symbol (n / 64 % 64) (by omega)
    have hfourth := value?_symbol (n % 64) (by omega)
    have hsymbol := symbol_ne_fill (n % 64) (by omega)
    have hleading : leading (n / 262144) (n / 4096 % 64) = a := by
      rw [← UInt8.toNat_inj, toNat_leading (by omega) (by omega)]
      omega
    have hmiddle : middle (n / 4096 % 64) (n / 64 % 64) = b := by
      rw [← UInt8.toNat_inj, toNat_middle (by omega)]
      omega
    have htrailing : trailing (n / 64 % 64) (n % 64) = c := by
      rw [← UInt8.toNat_inj, toNat_trailing (by omega)]
      omega
    show decode? (symbol (n / 262144) :: symbol (n / 4096 % 64) :: symbol (n / 64 % 64) ::
      symbol (n % 64) :: encode rest) = some (a :: b :: c :: rest)
    simp [decode?, hfirst, hsecond, hthird, hfourth, hsymbol, hleading, hmiddle, htrailing, ih]

/-! ## Reading, then encoding -/

/-- A group that is filled up by two characters is what its byte is encoded as. -/
theorem encode_leading {first second : Nat} (hfirst : first < 64) (hsecond : second < 64)
    (hzero : second % 16 = 0) :
    encode [leading first second] = [symbol first, symbol second, '=', '='] := by
  simp only [encode, toNat_leading hfirst hsecond]
  congr 3 <;> omega

theorem encode_leading_middle {first second third : Nat} (hfirst : first < 64)
    (hsecond : second < 64) (hthird : third < 64) (hzero : third % 4 = 0) :
    encode [leading first second, middle second third] =
      [symbol first, symbol second, symbol third, '='] := by
  simp only [encode, toNat_leading hfirst hsecond, toNat_middle hthird]
  congr 4 <;> omega

theorem encode_leading_middle_trailing {first second third fourth : Nat} (hfirst : first < 64)
    (hsecond : second < 64) (hthird : third < 64) (hfourth : fourth < 64) (others : List UInt8) :
    encode (leading first second :: middle second third :: trailing third fourth :: others) =
      symbol first :: symbol second :: symbol third :: symbol fourth :: encode others := by
  simp only [encode, toNat_leading hfirst hsecond, toNat_middle hthird, toNat_trailing hfourth]
  congr 5 <;> omega

/-- What is read as bytes is what these bytes are encoded as. -/
theorem encode_of_decode?_eq_some {text : Text} {bytes : List UInt8}
    (h : decode? text = some bytes) : encode bytes = text := by
  induction text using decode?.induct generalizing bytes with
  | case1 =>
    cases h
    rfl
  | case2 a b c d rest ih =>
    simp only [decode?, Option.bind_eq_bind, Option.bind_eq_some_iff] at h
    obtain ⟨first, ha, second, hb, h⟩ := h
    obtain ⟨hfirst, rfl⟩ := value?_eq_some_iff.mp ha
    obtain ⟨hsecond, rfl⟩ := value?_eq_some_iff.mp hb
    -- the last character tells whether the group is filled up, the one before it how far
    split at h
    -- the group stands for one byte, or for two
    · next hd =>
      subst hd
      simp only [Option.bind_eq_some_iff, Option.guard_eq_some'] at h
      obtain ⟨-, rfl, h⟩ := h
      split at h
      · next hc =>
        subst hc
        simp only [Option.bind_eq_some_iff, Option.guard_eq_some'] at h
        obtain ⟨-, hzero, h⟩ := h
        cases h
        exact encode_leading hfirst hsecond hzero
      · simp only [Option.bind_eq_some_iff, Option.guard_eq_some'] at h
        obtain ⟨third, hc, -, hzero, h⟩ := h
        obtain ⟨hthird, rfl⟩ := value?_eq_some_iff.mp hc
        cases h
        exact encode_leading_middle hfirst hsecond hthird hzero
    · simp only [Option.bind_eq_some_iff] at h
      obtain ⟨third, hc, fourth, hd, others, hothers, h⟩ := h
      obtain ⟨hthird, rfl⟩ := value?_eq_some_iff.mp hc
      obtain ⟨hfourth, rfl⟩ := value?_eq_some_iff.mp hd
      cases h
      rw [encode_leading_middle_trailing hfirst hsecond hthird hfourth, ih hothers]
  | case3 text hnil hgroup =>
    rw [decode?] at h
    · cases h
    · exact hnil
    · exact hgroup

/-- Bytes have one text that stands for them. -/
theorem decode?_eq_some_iff {text : Text} {bytes : List UInt8} :
    decode? text = some bytes ↔ text = encode bytes := by
  constructor
  · intro h
    exact (encode_of_decode?_eq_some h).symm
  · rintro rfl
    exact decode?_encode bytes

end TutorialPages.Base64
