import Mathlib.Tactic.SplitIfs
import SurveyCube.Json.Quoted

/-!
# Quoted text is read back

Every byte of a text is written on its own, and is read back as one piece:
control characters that have no letter as a unit, all other bytes as a byte.
None of these units is half a surrogate pair, so that each piece stands for its
byte whatever comes next.
-/

namespace SurveyCube.Json

/-- The byte is written with four hexadecimal digits. -/
def isWrittenInHex (byte : UInt8) : Bool :=
  byte < 32 && !(byte = 8 || byte = 9 || byte = 10 || byte = 12 || byte = 13)

/-- The piece that the written form of a byte is read as. -/
def pieceOf (byte : UInt8) : Piece :=
  if isWrittenInHex byte then .unit byte.toNat else .byte byte

/-! ## Pieces of the written form -/

section Pieces

variable {rest after : Bytes} {later : List Piece}

theorem pieces?_plain {byte : UInt8} (visible : ¬ byte < 32) (mark : byte ≠ 34)
    (backslash : byte ≠ 92) (found : pieces? rest = some (later, after)) :
    pieces? (byte :: rest) = some (.byte byte :: later, after) := by
  rw [pieces?]
  · simp [visible, backslash, found]
  all_goals simp_all

theorem pieces?_letter {letter byte : UInt8} (known : escaped? letter = some byte)
    (found : pieces? rest = some (later, after)) :
    pieces? (92 :: letter :: rest) = some (.byte byte :: later, after) := by
  rw [pieces?]
  · simp [known, found]
  · rintro _ _ _ _ _ rfl
    simp [escaped?] at known

theorem pieces?_hex {a b c d : UInt8} {value : Nat} (known : unit? a b c d = some value)
    (found : pieces? rest = some (later, after)) :
    pieces? (92 :: 117 :: a :: b :: c :: d :: rest) = some (.unit value :: later, after) := by
  rw [pieces?]
  simp [known, found]

theorem unit?_hexDigit {value : Nat} (low : value < 32) :
    unit? 48 48 (hexDigit (value / 16)) (hexDigit (value % 16)) = some value := by
  revert value
  decide

theorem pieces?_escape (byte : UInt8) (found : pieces? rest = some (later, after)) :
    pieces? (escape byte ++ rest) = some (pieceOf byte :: later, after) := by
  unfold escape
  split_ifs with mark backslash backspace tab newline feed carriage control
  · subst mark
    exact pieces?_letter rfl found
  · subst backslash
    exact pieces?_letter rfl found
  · subst backspace
    exact pieces?_letter rfl found
  · subst tab
    exact pieces?_letter rfl found
  · subst newline
    exact pieces?_letter rfl found
  · subst feed
    exact pieces?_letter rfl found
  · subst carriage
    exact pieces?_letter rfl found
  · have piece : pieceOf byte = .unit byte.toNat := by simp_all [pieceOf, isWrittenInHex]
    rw [piece]
    exact pieces?_hex (unit?_hexDigit control) found
  · have piece : pieceOf byte = .byte byte := by simp [pieceOf, isWrittenInHex, control]
    rw [piece]
    exact pieces?_plain control mark backslash found

theorem pieces?_quoted (bytes rest : Bytes) :
    pieces? (bytes.flatMap escape ++ 34 :: rest) = some (bytes.map pieceOf, rest) := by
  induction bytes with
  | nil => rfl
  | cons byte bytes ih =>
      rw [List.flatMap_cons, List.append_assoc]
      exact pieces?_escape byte ih

end Pieces

/-! ## What the pieces stand for -/

theorem characterBytes_of_lt {value : Nat} (low : value < 32) :
    characterBytes value = [UInt8.ofNat value] := by
  revert value
  decide

theorem pieceBytes?_unit {value : Nat} (low : value < 32) (pieces : List Piece) :
    pieceBytes? (.unit value :: pieces) = (pieceBytes? pieces).map (UInt8.ofNat value :: ·) := by
  have leading : isLeading value = false := by
    simp [isLeading]
    omega
  have trailing : isTrailing value = false := by
    simp [isTrailing]
    omega
  cases pieces with
  | nil => simp [pieceBytes?, leading, trailing, characterBytes_of_lt low]
  | cons piece later =>
      cases piece <;> simp [pieceBytes?, leading, trailing, characterBytes_of_lt low]

theorem pieceBytes?_pieceOf (byte : UInt8) (pieces : List Piece) :
    pieceBytes? (pieceOf byte :: pieces) = (pieceBytes? pieces).map (byte :: ·) := by
  unfold pieceOf
  split
  · next hex =>
    have low : byte.toNat < 32 := by
      simp only [isWrittenInHex, Bool.and_eq_true, decide_eq_true_eq] at hex
      exact hex.1
    rw [pieceBytes?_unit low, UInt8.ofNat_toNat]
  · rfl

theorem pieceBytes?_map_pieceOf (bytes : Bytes) : pieceBytes? (bytes.map pieceOf) = some bytes := by
  induction bytes with
  | nil => rfl
  | cons byte bytes ih => rw [List.map_cons, pieceBytes?_pieceOf, ih, Option.map_some]

/-- The written form of a text, after its quotation mark, is read as pieces that
denote the text. -/
theorem exists_pieces?_quote (text : String) (rest : Bytes) :
    ∃ body pieces, quote text = 34 :: body ∧ pieces? (body ++ rest) = some (pieces, rest) ∧
      decode? pieces = some text := by
  refine ⟨(Text.bytes text).flatMap escape ++ [34], (Text.bytes text).map pieceOf, rfl, ?_, ?_⟩
  · rw [List.append_assoc, List.singleton_append]
    exact pieces?_quoted (Text.bytes text) rest
  · rw [decode?, pieceBytes?_map_pieceOf, Option.bind_some, Text.ofBytes?_bytes]

end SurveyCube.Json
