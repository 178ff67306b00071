import SurveyCube.Json.Number
import SurveyCube.Proofs.Datum

/-!
# Numerals are read back

The numeral of a machine word, with or without a sign, is read as that number.
It has no zero in front, no point and no exponent, and it ends where something
else than a part of a numeral begins.
-/

namespace SurveyCube

namespace Decimal

theorem digitChar_ne_zero {n : Nat} (positive : 0 < n) (low : n < 10) :
    (Nat.digitChar n).toUInt8 ≠ 48 := by
  have each : ∀ n < 10, 0 < n → (Nat.digitChar n).toUInt8 ≠ 48 := by decide
  exact each n low positive

/-- The numeral of a positive number does not begin with a zero. -/
theorem exists_ofNat_eq_cons {n : Nat} (positive : 0 < n) :
    ∃ first rest, ofNat n = first :: rest ∧ first ≠ 48 := by
  induction n using Nat.strongRecOn with
  | ind n ih =>
      unfold ofNat
      rw [Nat.toDigits_eq_if (by decide)]
      split
      · next low =>
        exact ⟨_, [], rfl, digitChar_ne_zero positive low⟩
      · next high =>
        have quotient : 0 < n / 10 := by omega
        obtain ⟨first, rest, digits, nonzero⟩ := ih (n / 10) (by omega) quotient
        refine ⟨first, rest ++ [(Nat.digitChar (n % 10)).toUInt8], ?_, nonzero⟩
        rw [List.map_append]
        change ofNat (n / 10) ++ _ = _
        rw [digits]
        rfl

theorem exists_ofNat_eq_digit_cons (n : Nat) :
    ∃ first rest, ofNat n = first :: rest ∧ isDigit first = true := by
  obtain ⟨first, rest, digits⟩ := List.exists_cons_of_ne_nil (ofNat_ne_nil n)
  refine ⟨first, rest, digits, isDigit_of_mem_ofNat (n := n) ?_⟩
  rw [digits]
  exact List.mem_cons_self

theorem utf8EncodeChar_of_isDigit {c : Char} (digit : c.isDigit = true) :
    String.utf8EncodeChar c = [c.toUInt8] := by
  have bounds : 48 ≤ c.val ∧ c.val ≤ 57 := by
    simpa [Char.isDigit] using digit
  have ascii : c.val ≤ 0x7f := UInt32.le_trans bounds.2 (by decide)
  exact String.utf8EncodeChar_eq_singleton (if_pos ascii)

/-- Messages show a number by its numeral. -/
theorem bytes_toString (n : Nat) : Text.bytes (toString n) = ofNat n := by
  have encoded : ∀ chars : List Char, (∀ c ∈ chars, c.isDigit = true) →
      chars.flatMap String.utf8EncodeChar = chars.map Char.toUInt8 := by
    intro chars digits
    induction chars with
    | nil => rfl
    | cons c rest ih =>
        rw [List.forall_mem_cons] at digits
        rw [List.flatMap_cons, utf8EncodeChar_of_isDigit digits.1, ih digits.2, List.map_cons]
        rfl
  have written : Text.bytes (toString n) = (Nat.toDigits 10 n).flatMap String.utf8EncodeChar := by
    rw [Nat.toString_eq_ofList_toDigits]
    simp [Text.bytes, List.utf8Encode]
  rw [written]
  exact encoded _ fun _ => Nat.isDigit_of_mem_toDigits (by decide) (by decide)

end Decimal

namespace Json

theorem exists_ofInt_eq_cons (value : Int) :
    ∃ first rest, Decimal.ofInt value = first :: rest ∧
      (Decimal.isDigit first = true ∨ first = 45) := by
  cases value with
  | ofNat n =>
      obtain ⟨first, rest, digits, digit⟩ := Decimal.exists_ofNat_eq_digit_cons n
      exact ⟨first, rest, digits, Or.inl digit⟩
  | negSucc n => exact ⟨45, Decimal.ofNat (n + 1), rfl, Or.inr rfl⟩

/-- A text does not go on with a part of a numeral. -/
def endsNumeral : Bytes → Bool
  | [] => true
  | byte :: _ => !(Decimal.isDigit byte || byte = 46 || byte = 69 || byte = 101)

section Numerals

variable {rest : Bytes}

theorem digits_append {found : Bytes} (all : ∀ byte ∈ found, Decimal.isDigit byte = true)
    (ends : endsNumeral rest = true) : digits (found ++ rest) = (found, rest) := by
  have none : rest.takeWhile Decimal.isDigit = [] ∧ rest.dropWhile Decimal.isDigit = rest := by
    cases rest with
    | nil => exact ⟨rfl, rfl⟩
    | cons byte later =>
        simp only [endsNumeral, Bool.not_eq_true', Bool.or_eq_false_iff] at ends
        simp [ends.1.1.1]
  rw [digits, List.takeWhile_append_of_pos all, List.dropWhile_append_of_pos all, none.1, none.2,
    List.append_nil]

theorem whole?_ofNat (n : Nat) (ends : endsNumeral rest = true) :
    whole? (Decimal.ofNat n ++ rest) = some (Decimal.ofNat n, rest) := by
  have found : someDigits? (Decimal.ofNat n ++ rest) = some (Decimal.ofNat n, rest) := by
    rw [someDigits?, digits_append (fun _ => Decimal.isDigit_of_mem_ofNat) ends]
    simp [Decimal.ofNat_ne_nil]
  rw [whole?, found]
  rcases Nat.eq_zero_or_pos n with zero | positive
  · subst zero
    rfl
  · obtain ⟨first, later, digits, nonzero⟩ := Decimal.exists_ofNat_eq_cons positive
    rw [digits]
    split
    · next same =>
      cases same
      exact absurd rfl nonzero
    · rfl

theorem fraction?_eq_none (ends : endsNumeral rest = true) :
    fraction? rest = some (none, rest) := by
  unfold fraction?
  split
  · simp [endsNumeral] at ends
  · rfl

theorem exponent?_eq_none (ends : endsNumeral rest = true) :
    exponent? rest = some (none, rest) := by
  unfold exponent?
  split
  · simp [endsNumeral] at ends
  · simp [endsNumeral] at ends
  · rfl

theorem numeral?_ofNat (n : Nat) (ends : endsNumeral rest = true) :
    numeral? (Decimal.ofNat n ++ rest) = some (⟨false, Decimal.ofNat n, none, none⟩, rest) := by
  have whole := whole?_ofNat n ends
  obtain ⟨first, later, digits, digit⟩ := Decimal.exists_ofNat_eq_digit_cons n
  unfold numeral?
  split
  next negative unsigned signed =>
  split at signed
  · next minus =>
    -- No numeral of a natural number begins with a minus.
    rw [digits] at minus
    cases minus
    exact absurd digit (by decide)
  · cases signed
    simp [whole, fraction?_eq_none ends, exponent?_eq_none ends]

theorem numeral?_neg_ofNat (n : Nat) (ends : endsNumeral rest = true) :
    numeral? (45 :: Decimal.ofNat n ++ rest) =
      some (⟨true, Decimal.ofNat n, none, none⟩, rest) := by
  unfold numeral?
  simp [whole?_ofNat n ends, fraction?_eq_none ends, exponent?_eq_none ends]

/-- A numeral of a machine word is read as that number. -/
theorem exists_numeral?_ofInt {value : Int} (word : Datum.isWord value = true)
    (ends : endsNumeral rest = true) :
    ∃ numeral, numeral? (Decimal.ofInt value ++ rest) = some (numeral, rest) ∧
      numeral.toDatum = .int value := by
  rw [Datum.isWord_iff] at word
  cases value with
  | ofNat n =>
      have fits : n < wordSize := Int.ofNat_lt.mp word.2
      refine ⟨_, numeral?_ofNat n ends, ?_⟩
      simp only [Numeral.toDatum, Decimal.value_ofNat, if_pos fits]
      rfl
  | negSucc n =>
      have fits : 0 < n + 1 ∧ n + 1 ≤ 2 ^ 63 := by omega
      refine ⟨_, numeral?_neg_ofNat (n + 1) ends, ?_⟩
      simp only [Numeral.toDatum, Decimal.value_ofNat, if_pos fits]
      rfl

end Numerals

end Json

end SurveyCube
