import SurveyCube.Bytes

/-!
# Text as bytes

Documents and messages carry text in UTF-8.  `Text.bytes` writes a text and
`Text.ofBytes?` reads one; a byte string that is not well-formed UTF-8 is no
text.  Names are ordered by their bytes.
-/

namespace SurveyCube.Text

def bytes (text : String) : Bytes :=
  text.toUTF8.data.toList

/-- The text with given bytes, if they are well-formed. -/
def ofBytes? (bytes : Bytes) : Option String :=
  String.fromUTF8? ⟨bytes.toArray⟩

/-- The text with given bytes.  It is empty if they are not well-formed, which
does not happen for bytes that a writer of this library produced. -/
def ofBytes (bytes : Bytes) : String :=
  (ofBytes? bytes).getD ""

/-- The first text comes before the second, byte by byte. -/
def precedes (a b : String) : Bool :=
  decide (bytes a < bytes b)

def notAfter (a b : String) : Bool :=
  !precedes b a

/-- A text is read back from its bytes. -/
@[simp]
theorem ofBytes?_bytes (text : String) : ofBytes? (bytes text) = some text := by
  simp only [ofBytes?, bytes, Array.toArray_toList]
  unfold String.fromUTF8?
  rw [dif_pos (show (ByteArray.mk text.toUTF8.data).IsValidUTF8 from text.isValidUTF8)]
  rfl

@[simp]
theorem ofBytes_bytes (text : String) : ofBytes (bytes text) = text := by
  simp [ofBytes]

theorem bytes_injective {a b : String} (same : bytes a = bytes b) : a = b := by
  have := congrArg ofBytes? same
  simpa using this

end SurveyCube.Text
