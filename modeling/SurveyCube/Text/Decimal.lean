import SurveyCube.Bytes

/-!
# Decimal numerals

Numerals are written in ASCII digits without leading zeros and without a plus
sign.  `Decimal.value` reads a run of digits, leading zeros included, and is a
left inverse of `Decimal.ofNat`.
-/

namespace SurveyCube.Decimal

def isDigit (byte : UInt8) : Bool :=
  48 ≤ byte && byte ≤ 57

def digitValue (byte : UInt8) : Nat :=
  byte.toNat - 48

def ofNat (n : Nat) : Bytes :=
  (Nat.toDigits 10 n).map Char.toUInt8

def ofInt : Int → Bytes
  | .ofNat n => ofNat n
  | .negSucc n => 45 :: ofNat (n + 1)

def value (digits : Bytes) : Nat :=
  digits.foldl (fun total byte => total * 10 + digitValue byte) 0

/-- The number that a text of digits denotes, with at least one digit and
nothing but digits. -/
def ofDigits? (digits : Bytes) : Option Nat :=
  if digits.isEmpty || !digits.all isDigit then none else some (value digits)

theorem toUInt8_of_isDigit {c : Char} (digit : c.isDigit = true) :
    isDigit c.toUInt8 = true ∧ digitValue c.toUInt8 = c.toNat - '0'.toNat := by
  have bounds : 48 ≤ c.val ∧ c.val ≤ 57 := by
    simpa [Char.isDigit] using digit
  obtain ⟨low, high⟩ := bounds
  have low' : 48 ≤ c.val.toNat := by simpa [UInt32.le_iff_toNat_le] using low
  have high' : c.val.toNat ≤ 57 := by simpa [UInt32.le_iff_toNat_le] using high
  have same : c.toUInt8.toNat = c.val.toNat := by
    simp only [Char.toUInt8, UInt32.toNat_toUInt8]
    omega
  constructor
  · simp only [isDigit, UInt8.le_iff_toNat_le, Bool.and_eq_true, decide_eq_true_eq, same]
    exact ⟨low', high'⟩
  · simp only [digitValue, same]
    rfl

/-- Every byte of a numeral is a digit. -/
theorem isDigit_of_mem_ofNat {n : Nat} {byte : UInt8} (member : byte ∈ ofNat n) :
    isDigit byte = true := by
  obtain ⟨c, inDigits, rfl⟩ := List.mem_map.1 member
  exact (toUInt8_of_isDigit (Nat.isDigit_of_mem_toDigits (by decide) (by decide) inDigits)).1

theorem ofNat_ne_nil (n : Nat) : ofNat n ≠ [] := by
  simp [ofNat, Nat.toDigits_ne_nil]

private theorem foldl_map_toUInt8 (cs : List Char) (total : Nat)
    (digits : ∀ c ∈ cs, c.isDigit = true) :
    (cs.map Char.toUInt8).foldl (fun total byte => total * 10 + digitValue byte) total =
      Nat.ofDigitChars 10 cs total := by
  induction cs generalizing total with
  | nil => simp
  | cons c cs ih =>
      have head := (toUInt8_of_isDigit (digits c (by simp))).2
      simp only [List.map_cons, List.foldl_cons, Nat.ofDigitChars_cons]
      rw [ih _ fun d member => digits d (by simp [member]), head, Nat.mul_comm]

@[simp]
theorem value_ofNat (n : Nat) : value (ofNat n) = n := by
  rw [value, ofNat, foldl_map_toUInt8]
  · exact Nat.ofDigitChars_ten_toDigits
  · intro c member
    exact Nat.isDigit_of_mem_toDigits (by decide) (by decide) member

end SurveyCube.Decimal
