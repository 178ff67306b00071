/-!
# Byte strings and fixed-width words

Messages, documents and fragment files are lists of bytes.  Words are written
with the least significant byte first in point and sample streams, and with the
most significant byte first in packed messages.
-/

-- A power of numbers is the one of the core library, whichever library is imported as well.
attribute [instance (20000), default_instance 20000] instPowNat

namespace SurveyCube

abbrev Bytes := List UInt8

/-- The numbers that a machine word holds. -/
def wordLimit : Nat := 2 ^ 64

namespace Bytes

/-- The first `n` bytes and what follows them, if there are that many. -/
def take? : Nat → Bytes → Option (Bytes × Bytes)
  | 0, rest => some ([], rest)
  | _ + 1, [] => none
  | n + 1, byte :: rest =>
      (take? n rest).map fun (taken, rest) => (byte :: taken, rest)

/-- The `width` bytes of a word, least significant first. -/
def littleEndian : Nat → Nat → Bytes
  | 0, _ => []
  | width + 1, n => UInt8.ofNat (n % 256) :: littleEndian width (n / 256)

def ofLittleEndian : Bytes → Nat
  | [] => 0
  | byte :: rest => byte.toNat + 256 * ofLittleEndian rest

/-- The `width` bytes of a word, most significant first. -/
def bigEndian (width n : Nat) : Bytes :=
  (littleEndian width n).reverse

def ofBigEndian (bytes : Bytes) : Nat :=
  ofLittleEndian bytes.reverse

/-- The number that a word of `width` bytes denotes in two's complement. -/
def signed (width n : Nat) : Int :=
  if n < 256 ^ width / 2 then (n : Int) else (n : Int) - (256 ^ width : Nat)

/-- The word of `width` bytes that denotes a number in two's complement. -/
def unsigned (width : Nat) (n : Int) : Nat :=
  (n % (256 ^ width : Nat)).toNat

theorem take?_append (taken rest : Bytes) :
    take? taken.length (taken ++ rest) = some (taken, rest) := by
  induction taken with
  | nil => rfl
  | cons byte taken ih => simp [take?, ih]

theorem take?_eq_some {n : Nat} {bytes taken rest : Bytes}
    (found : take? n bytes = some (taken, rest)) :
    bytes = taken ++ rest ∧ taken.length = n := by
  induction n generalizing bytes taken with
  | zero =>
      simp only [take?, Option.some.injEq, Prod.mk.injEq] at found
      obtain ⟨rfl, rfl⟩ := found
      exact ⟨rfl, rfl⟩
  | succ n ih =>
      cases bytes with
      | nil => simp [take?] at found
      | cons byte bytes =>
          simp only [take?, Option.map_eq_some_iff, Prod.exists, Prod.mk.injEq] at found
          obtain ⟨initial, _, inner, rfl, rfl⟩ := found
          obtain ⟨rfl, rfl⟩ := ih inner
          exact ⟨rfl, rfl⟩

@[simp]
theorem length_littleEndian (width n : Nat) : (littleEndian width n).length = width := by
  induction width generalizing n with
  | zero => rfl
  | succ width ih => simp [littleEndian, ih]

@[simp]
theorem length_bigEndian (width n : Nat) : (bigEndian width n).length = width := by
  simp [bigEndian]

/-- A word that fits in `width` bytes is read back from them. -/
theorem ofLittleEndian_littleEndian {width n : Nat} (fits : n < 256 ^ width) :
    ofLittleEndian (littleEndian width n) = n := by
  induction width generalizing n with
  | zero =>
      have : n = 0 := by simpa using fits
      simp [littleEndian, ofLittleEndian, this]
  | succ width ih =>
      have inner : n / 256 < 256 ^ width := by
        rw [Nat.div_lt_iff_lt_mul (by decide)]
        rwa [Nat.pow_succ] at fits
      have low : (UInt8.ofNat (n % 256)).toNat = n % 256 := by
        simp
      simp only [littleEndian, ofLittleEndian, ih inner, low]
      exact Nat.mod_add_div n 256

theorem ofBigEndian_bigEndian {width n : Nat} (fits : n < 256 ^ width) :
    ofBigEndian (bigEndian width n) = n := by
  simp [ofBigEndian, bigEndian, ofLittleEndian_littleEndian fits]

end Bytes

end SurveyCube
