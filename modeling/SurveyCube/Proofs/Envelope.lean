import SurveyCube.Proofs.Message

/-!
# Headers in envelopes

An envelope is refused for the number of its parts alone.  A header whose numbers fit
machine words, and whose texts and lists are shorter than a message can say, comes back
from its envelope as it was, and the bytes after the envelope are left as they are.
-/

namespace SurveyCube

/-! ## What a message holds -/

theorem packable_nat (n : Nat) : packable n = true := rfl

theorem packable_int (n : Int) : packable n = true := rfl

theorem packable_string_iff {text : String} :
    packable text = true ↔ (Text.bytes text).length < 2 ^ 32 :=
  Datum.isShortText_iff

theorem packable_function (function : Function) : packable function = true := by
  cases function <;> decide

namespace ProcessHeader

/-- The numbers of a header fit machine words, those of the index with a sign.  Its texts
and lists are shorter than a message can say. -/
structure Fits (header : ProcessHeader) : Prop where
  bundles : header.bundles < 2 ^ 64
  dims : header.dims < 2 ^ 64
  index : ∀ entry ∈ header.index, -2 ^ 63 ≤ entry ∧ entry < 2 ^ 63
  shapes : ∀ extent ∈ header.shapes, extent < 2 ^ 64
  texts : ∀ text ∈ header.pid :: (header.labels ++ header.attributes),
    (Text.bytes text).length < 2 ^ 32
  fewLabels : header.labels.length < 2 ^ 32
  fewEntries : header.index.length < 2 ^ 32
  fewAttributes : header.attributes.length < 2 ^ 32
  fewExtents : header.shapes.length < 2 ^ 32

theorem packable_iff {header : ProcessHeader} :
    packable header = true ↔
      packable header.pid = true ∧ packable header.labels = true ∧
        packable header.index = true ∧ packable header.attributes = true ∧
          packable header.shapes = true := by
  have names : ∀ name ∈ ["pid", "function", "nbundles", "ndims", "labels", "index",
      "attributes", "shapes"], Datum.isShortText name = true := by
    decide
  have few : 8 < Datum.lengthLimit := by decide
  have function : (toDatum header.function).isShort = true := packable_function header.function
  have bundles : (toDatum header.bundles).isShort = true := packable_nat header.bundles
  have dims : (toDatum header.dims).isShort = true := packable_nat header.dims
  simp only [List.forall_mem_cons] at names
  change Datum.isShort (.record _) = true ↔ _
  simp [packable, Datum.isShort, Datum.isShortFields, names, few, function, bundles, dims]

variable {header : ProcessHeader}

theorem Fits.fitWords (fits : header.Fits) : fitWords header = true :=
  fitWords_iff.mpr
    ⟨fitWords_nat_iff.mpr fits.bundles, fitWords_nat_iff.mpr fits.dims,
      fitWords_list_iff.mpr fun entry listed => fitWords_int_iff.mpr (fits.index entry listed),
      fitWords_list_iff.mpr fun extent listed => fitWords_nat_iff.mpr (fits.shapes extent listed)⟩

theorem Fits.packable (fits : header.Fits) : packable header = true := by
  have texts := fits.texts
  simp only [List.forall_mem_cons, List.forall_mem_append] at texts
  obtain ⟨pid, labels, attributes⟩ := texts
  refine packable_iff.mpr ⟨packable_string_iff.mpr pid, ?_, ?_, ?_, ?_⟩
  · exact packable_list_iff.mpr
      ⟨fits.fewLabels, fun label listed => packable_string_iff.mpr (labels label listed)⟩
  · exact packable_list_iff.mpr ⟨fits.fewEntries, fun entry _ => packable_int entry⟩
  · exact packable_list_iff.mpr
      ⟨fits.fewAttributes, fun name listed => packable_string_iff.mpr (attributes name listed)⟩
  · exact packable_list_iff.mpr ⟨fits.fewExtents, fun extent _ => packable_nat extent⟩

end ProcessHeader

/-! ## Main result -/

namespace Envelope

theorem pack_eq_error {header : ProcessHeader} {fault : Fault} :
    pack header = .error fault ↔
      maxListLength < header.bundles ∧ fault = .tooManyBundles header.bundles := by
  unfold pack
  split
  · rename_i fits
    simp [Nat.not_lt.mpr fits]
  · rename_i tooMany
    simp [Nat.lt_of_not_le tooMany, eq_comm]

/-- An envelope is refused exactly if it announces more parts than a list can have, for
which the fault is an overflow.  Otherwise it is taken apart in front of any bytes. -/
theorem headers_read_back (header : ProcessHeader) (fits : header.Fits) :
    ((∃ fault, pack header = .error fault) ↔ 2 ^ 32 - 1 < header.bundles) ∧
    (∀ fault, pack header = .error fault → fault.kind = .overflow) ∧
    (header.bundles ≤ 2 ^ 32 - 1 → ∃ envelope, pack header = .ok envelope ∧
      ∀ rest, unpack (envelope ++ rest) = .ok (header, header.bundles, rest)) := by
  refine ⟨?_, ?_, ?_⟩
  · constructor
    · rintro ⟨fault, refused⟩
      exact (pack_eq_error.mp refused).1
    · intro tooMany
      exact ⟨_, pack_eq_error.mpr ⟨tooMany, rfl⟩⟩
  · intro fault refused
    obtain ⟨_, rfl⟩ := pack_eq_error.mp refused
    rfl
  · intro few
    have packed := pack_eq_ok.mpr ⟨few, rfl⟩
    exact ⟨_, packed, unpack_pack packed fits.fitWords fits.packable⟩

/-- A header with numbers of every width. -/
def wideHeader : ProcessHeader where
  pid := "Größe"
  function := .curtain
  bundles := 70000
  dims := 2 ^ 64 - 1
  labels := ["", "a label of more than thirty-one bytes"]
  index := [0, 127, 128, 2 ^ 8, 2 ^ 16, 2 ^ 32, 2 ^ 63 - 1,
    -1, -32, -33, -2 ^ 7 - 1, -2 ^ 15 - 1, -2 ^ 31 - 1, -2 ^ 63]
  attributes := ["data"]
  shapes := [2 ^ 64 - 1, 2 ^ 32 - 1, 2 ^ 16 - 1, 2 ^ 8 - 1]

theorem wideHeader_fits : wideHeader.Fits where
  bundles := by decide
  dims := by decide
  index := by decide
  shapes := by decide
  texts := by decide
  fewLabels := by decide
  fewEntries := by decide
  fewAttributes := by decide
  fewExtents := by decide

/-- A wide header is read back in front of a byte that starts no message, and one more
part than a list can have is too many. -/
theorem wideHeader_reads_back :
    (∃ envelope, pack wideHeader = .ok envelope ∧
      unpack (envelope ++ [0xc1]) = .ok (wideHeader, 70000, [0xc1])) ∧
    ∃ fault, pack { wideHeader with bundles := 2 ^ 32 } = .error fault ∧
      fault.kind = .overflow := by
  have many : { wideHeader with bundles := 2 ^ 32 }.Fits :=
    { wideHeader_fits with bundles := by decide }
  obtain ⟨_, _, reads⟩ := headers_read_back wideHeader wideHeader_fits
  obtain ⟨refuses, overflow, _⟩ := headers_read_back _ many
  obtain ⟨envelope, packed, unpacked⟩ := reads (by decide)
  obtain ⟨fault, refused⟩ := refuses.mpr (by decide)
  exact ⟨⟨envelope, packed, unpacked _⟩, fault, refused, overflow fault refused⟩

end Envelope

end SurveyCube
