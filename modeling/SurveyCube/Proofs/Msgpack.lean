import SurveyCube.Msgpack.Reader
import SurveyCube.Msgpack.Writer
import SurveyCube.Proofs.Datum

/-!
# Packed messages are read back

A datum of a document is packed so that reading gives back the datum and leaves
whatever follows it.  The format limits this to numbers that are machine words,
to lengths that fit four bytes, and to a depth below the bound of the reader.

* `AtomTag` tells the tags of atoms from those of lists and records.
* `StartsWith` says that reading an atom gives that atom; there is one lemma
  for every kind of atom that is written.
* `value?_pack` is the round trip, by induction on the datum together with its
  lists of items and fields.  What follows the message is arbitrary, which is
  what lets the parts of a list be read one after the other.
-/

namespace SurveyCube.Msgpack

/-! ## Words and tags -/

theorem word?_bigEndian
    {width n : Nat} (fits : n < 256 ^ width) (rest : Bytes) :
    word? width (Bytes.bigEndian width n ++ rest) = some (n, rest) := by
  have taken := Bytes.take?_append (Bytes.bigEndian width n) rest
  rw [Bytes.length_bigEndian] at taken
  simp only [word?, taken, Option.map_some, Bytes.ofBigEndian_bigEndian fits]

/-- The tag stands in front of an atom. -/
def AtomTag (tag : UInt8) : Prop :=
  tag.toNat < 0x80 ∨ 0xa0 ≤ tag.toNat ∧ (tag.toNat < 0xdc ∨ 0xe0 ≤ tag.toNat)

instance (tag : UInt8) : Decidable (AtomTag tag) :=
  inferInstanceAs (Decidable (_ ∨ _))

theorem toNat_ofNat_of_lt {n : Nat} (fits : n < 0x100) : (UInt8.ofNat n).toNat = n :=
  UInt8.toNat_ofNat_of_lt' fits

theorem listLength?_of_atomTag
    {tag : UInt8} (atomic : AtomTag tag) (tail : Bytes) :
    listLength? (tag :: tail) = none := by
  have limits :
      UInt8.toNat 0x90 = 0x90 ∧ UInt8.toNat 0xa0 = 0xa0 ∧
        UInt8.toNat 0xdc = 0xdc ∧ UInt8.toNat 0xdd = 0xdd := by
    decide
  unfold AtomTag at atomic
  simp only [listLength?, Bool.and_eq_true, decide_eq_true_eq, UInt8.le_iff_toNat_le,
    UInt8.lt_iff_toNat_lt, ← UInt8.toNat_inj]
  rw [if_neg (by omega), if_neg (by omega), if_neg (by omega)]

theorem recordLength?_of_atomTag
    {tag : UInt8} (atomic : AtomTag tag) (tail : Bytes) :
    recordLength? (tag :: tail) = none := by
  have limits :
      UInt8.toNat 0x80 = 0x80 ∧ UInt8.toNat 0x90 = 0x90 ∧
        UInt8.toNat 0xde = 0xde ∧ UInt8.toNat 0xdf = 0xdf := by
    decide
  unfold AtomTag at atomic
  simp only [recordLength?, Bool.and_eq_true, decide_eq_true_eq, UInt8.le_iff_toNat_le,
    UInt8.lt_iff_toNat_lt, ← UInt8.toNat_inj]
  rw [if_neg (by omega), if_neg (by omega), if_neg (by omega)]

theorem listLength?_listTag
    {length : Nat} (fits : length < Datum.lengthLimit) (rest : Bytes) :
    listLength? (listTag length ++ rest) = some (length, rest) := by
  unfold listTag
  split
  · rename_i small
    have value : (UInt8.ofNat (0x90 + length)).toNat = 0x90 + length :=
      toNat_ofNat_of_lt (by omega)
    have limits : UInt8.toNat 0x90 = 0x90 ∧ UInt8.toNat 0xa0 = 0xa0 := by
      decide
    simp only [List.cons_append, List.nil_append, listLength?, Bool.and_eq_true,
      decide_eq_true_eq, UInt8.le_iff_toNat_le, UInt8.lt_iff_toNat_lt, value]
    rw [if_pos (by omega), Nat.add_sub_cancel_left]
  · have counted (width : Nat) (fits : length < 256 ^ width) :
        word? width (Bytes.bigEndian width length ++ rest) = some (length, rest) :=
      word?_bigEndian fits rest
    split
    · exact counted 2 (by omega)
    · exact counted 4 fits

/-- The tag of a record announces the number of its fields, and no list. -/
theorem recordLength?_recordTag
    {length : Nat} (fits : length < Datum.lengthLimit) (rest : Bytes) :
    listLength? (recordTag length ++ rest) = none ∧
      recordLength? (recordTag length ++ rest) = some (length, rest) := by
  unfold recordTag
  split
  · rename_i small
    have value : (UInt8.ofNat (0x80 + length)).toNat = 0x80 + length :=
      toNat_ofNat_of_lt (by omega)
    have limits :
        UInt8.toNat 0x80 = 0x80 ∧ UInt8.toNat 0x90 = 0x90 ∧ UInt8.toNat 0xa0 = 0xa0 ∧
          UInt8.toNat 0xdc = 0xdc ∧ UInt8.toNat 0xdd = 0xdd := by
      decide
    simp only [List.cons_append, List.nil_append, listLength?, recordLength?,
      Bool.and_eq_true, decide_eq_true_eq, UInt8.le_iff_toNat_le, UInt8.lt_iff_toNat_lt,
      ← UInt8.toNat_inj, value]
    constructor
    · rw [if_neg (by omega), if_neg (by omega), if_neg (by omega)]
    · rw [if_pos (by omega), Nat.add_sub_cancel_left]
  · have counted (width : Nat) (fits : length < 256 ^ width) :
        word? width (Bytes.bigEndian width length ++ rest) = some (length, rest) :=
      word?_bigEndian fits rest
    split
    · exact ⟨rfl, counted 2 (by omega)⟩
    · exact ⟨rfl, counted 4 fits⟩

/-! ## Atoms -/

/-- The bytes begin with an atom that nests nothing. -/
structure StartsWith (bytes : Bytes) (atom : Atom) (rest : Bytes) : Prop where
  nests_nothing : atom ≠ .extension
  read : ∃ tag tail, bytes = tag :: tail ∧ AtomTag tag ∧ atom? tag tail = some (atom, rest)

namespace StartsWith

variable {bytes rest : Bytes} {atom : Atom}

theorem nestedAtom?_eq {tag : UInt8} {tail : Bytes}
    (simple : atom ≠ .extension) (found : atom? tag tail = some (atom, rest)) (bound : Nat) :
    nestedAtom? bound tag tail = some (atom, rest) := by
  unfold nestedAtom?
  rw [found]
  cases atom with
  | extension => exact absurd rfl simple
  | _ => rfl

theorem value?_eq (start : StartsWith bytes atom rest) (bound : Nat) :
    value? bound bytes = some (atom.toDatum, rest) := by
  obtain ⟨simple, tag, tail, rfl, atomic, found⟩ := start
  cases bound with
  | zero =>
      rw [value?, nestedAtom?_eq simple found]
      rfl
  | succ bound =>
      rw [value?, listLength?_of_atomTag atomic, recordLength?_of_atomTag atomic]
      simp only [nestedAtom?_eq simple found, Option.map_some]

theorem label?_eq (start : StartsWith bytes atom rest)
    (read : Bytes → Option (Datum × Bytes)) (bound : Nat) :
    label? read bound bytes = some (atom.toLabel, rest) := by
  obtain ⟨simple, tag, tail, rfl, atomic, found⟩ := start
  rw [label?, listLength?_of_atomTag atomic, recordLength?_of_atomTag atomic]
  simp [nestedAtom?_eq simple found]

end StartsWith

theorem nat_startsWith {n : Nat} (word : n < 2 ^ 64) (rest : Bytes) :
    ∃ width, StartsWith (nat n ++ rest) (.word width n) rest := by
  unfold nat
  split
  · rename_i small
    have value : (UInt8.ofNat n).toNat = n := toNat_ofNat_of_lt (by omega)
    refine ⟨1, by simp, UInt8.ofNat n, rest, rfl, ?_, ?_⟩
    · exact Or.inl (by rw [value]; exact small)
    · have low : UInt8.ofNat n < 0x80 := by
        rw [UInt8.lt_iff_toNat_lt, value]
        exact small
      rw [atom?, if_pos low, value]
  · have unsigned (width : Nat) (fits : n < 256 ^ width) :
        unsigned? width (Bytes.bigEndian width n ++ rest) = some (.word width n, rest) := by
      rw [unsigned?, word?_bigEndian fits]
      rfl
    split
    · exact ⟨1, by simp, 0xcc, _, rfl, by decide, unsigned 1 (by omega)⟩
    · split
      · exact ⟨2, by simp, 0xcd, _, rfl, by decide, unsigned 2 (by omega)⟩
      · split
        · exact ⟨4, by simp, 0xce, _, rfl, by decide, unsigned 4 (by omega)⟩
        · exact ⟨8, by simp, 0xcf, _, rfl, by decide, unsigned 8 (by omega)⟩

theorem signed_unsigned
    {width : Nat} {n : Int} (negative : n < 0) (fits : -(256 ^ width / 2 : Nat) ≤ n) :
    Bytes.signed width (Bytes.unsigned width n) = n ∧
      Bytes.unsigned width n < 256 ^ width := by
  have positive : 0 < 256 ^ width := Nat.pow_pos (by decide)
  have wrapped : n % (256 ^ width : Nat) = n + (256 ^ width : Nat) := by
    rw [← Int.add_emod_right, Int.emod_eq_of_lt (by omega) (by omega)]
  unfold Bytes.signed Bytes.unsigned
  rw [wrapped]
  generalize 256 ^ width = limit at *
  have word : ((n + (limit : Nat)).toNat : Int) = n + (limit : Nat) :=
    Int.toNat_of_nonneg (by omega)
  constructor
  · rw [if_neg (by omega), word]
    omega
  · omega

theorem int_startsWith {n : Int} (word : Datum.isWord n = true) (rest : Bytes) :
    ∃ atom, atom.toDatum = .int n ∧ StartsWith (int n ++ rest) atom rest := by
  rw [Datum.isWord_iff] at word
  cases n with
  | ofNat n =>
      have below : n < 2 ^ 64 := by
        have := word.2
        rw [Int.ofNat_eq_natCast] at this
        omega
      obtain ⟨width, start⟩ := nat_startsWith below rest
      exact ⟨_, rfl, start⟩
  | negSucc n =>
      have signed (width : Nat) (fits : -(256 ^ width / 2 : Nat) ≤ Int.negSucc n) :
          signed? width
              (Bytes.bigEndian width (Bytes.unsigned width (Int.negSucc n)) ++ rest) =
            some (.scalar (.int (Int.negSucc n)), rest) := by
        obtain ⟨value, below⟩ := signed_unsigned (Int.negSucc_lt_zero n) fits
        simp only [signed?, word?_bigEndian below, Option.map_some, value]
      refine ⟨.scalar (.int (Int.negSucc n)), rfl, by simp, ?_⟩
      simp only [int]
      split
      · rename_i small
        have value : (UInt8.ofNat (0xff - n)).toNat = 0xff - n :=
          toNat_ofNat_of_lt (by omega)
        have limits : UInt8.toNat 0x80 = 0x80 ∧ UInt8.toNat 0xe0 = 0xe0 := by
          decide
        refine ⟨UInt8.ofNat (0xff - n), rest, rfl, ?_, ?_⟩
        · unfold AtomTag
          omega
        · rw [atom?, if_neg (by rw [UInt8.lt_iff_toNat_lt]; omega),
            if_pos (by rw [UInt8.le_iff_toNat_le]; omega), value]
          have same : ((0xff - n : Nat) : Int) - 0x100 = Int.negSucc n := by
            omega
          rw [same]
      · split
        · exact ⟨0xd0, _, rfl, by decide, signed 1 (by omega)⟩
        · split
          · exact ⟨0xd1, _, rfl, by decide, signed 2 (by omega)⟩
          · split
            · exact ⟨0xd2, _, rfl, by decide, signed 4 (by omega)⟩
            · exact ⟨0xd3, _, rfl, by decide, signed 8 (by omega)⟩

theorem text_startsWith {value : String} (short : Datum.isShortText value = true)
    (rest : Bytes) :
    StartsWith (text value ++ rest) (.text (Text.bytes value)) rest := by
  rw [Datum.isShortText_iff] at short
  refine ⟨by simp, ?_⟩
  simp only [text, List.append_assoc]
  generalize Text.bytes value = raw at *
  have body : text? raw.length (raw ++ rest) = some (.text raw, rest) := by
    rw [text?, Bytes.take?_append]
    rfl
  have counted (width : Nat) (fits : raw.length < 256 ^ width) :
      ((word? width (Bytes.bigEndian width raw.length ++ (raw ++ rest))).bind
        fun found => text? found.1 found.2) = some (.text raw, rest) := by
    rw [word?_bigEndian fits]
    exact body
  unfold textTag
  split
  · rename_i small
    have value : (UInt8.ofNat (0xa0 + raw.length)).toNat = 0xa0 + raw.length :=
      toNat_ofNat_of_lt (by omega)
    have limits :
        UInt8.toNat 0x80 = 0x80 ∧ UInt8.toNat 0xe0 = 0xe0 ∧ UInt8.toNat 0xa0 = 0xa0 ∧
          UInt8.toNat 0xc0 = 0xc0 := by
      decide
    refine ⟨UInt8.ofNat (0xa0 + raw.length), raw ++ rest, rfl, ?_, ?_⟩
    · unfold AtomTag
      omega
    · simp only [atom?, Bool.and_eq_true, decide_eq_true_eq, UInt8.le_iff_toNat_le,
        UInt8.lt_iff_toNat_lt, value]
      rw [if_neg (by omega), if_neg (by omega), if_pos (by omega), Nat.add_sub_cancel_left]
      exact body
  · split
    · exact ⟨0xd9, _, rfl, by decide, counted 1 (by omega)⟩
    · split
      · exact ⟨0xda, _, rfl, by decide, counted 2 (by omega)⟩
      · exact ⟨0xdb, _, rfl, by decide, counted 4 (by omega)⟩

theorem toDatum_textAtom (value : String) :
    (Atom.text (Text.bytes value)).toDatum = .text value := by
  simp [Atom.toDatum]

theorem toLabel_textAtom (value : String) :
    (Atom.text (Text.bytes value)).toLabel = .text value := by
  simp [Atom.toLabel]

theorem real_startsWith (value : Binary64) (rest : Bytes) :
    StartsWith (pack (.real value) ++ rest) (.scalar (.real value)) rest := by
  have word : word? 8 (Bytes.bigEndian 8 value.bits.toNat ++ rest) =
      some (value.bits.toNat, rest) :=
    word?_bigEndian (UInt64.toNat_lt value.bits) rest
  refine ⟨by simp, 0xcb, Bytes.bigEndian 8 value.bits.toNat ++ rest, ?_, by decide, ?_⟩
  · rw [pack]
    rfl
  · have tagged (tail : Bytes) :
        atom? 0xcb tail =
          (word? 8 tail).map fun found =>
            (.scalar (.real ⟨UInt64.ofNat found.1⟩), found.2) :=
      rfl
    rw [tagged, word]
    simp

/-! ## Whole messages -/

theorem value?_of_listLength
    {bound count : Nat} {bytes inner : Bytes} {found : Datum × Bytes}
    (announced : listLength? bytes = some (count, inner))
    (read : list? (value? bound) count inner = some found) :
    value? (bound + 1) bytes = some found := by
  cases bytes with
  | nil =>
      simp [listLength?] at announced
  | cons tag tail =>
      rw [value?, announced]
      exact read

theorem value?_of_recordLength
    {bound count : Nat} {bytes inner : Bytes} {found : Datum × Bytes}
    (noList : listLength? bytes = none)
    (announced : recordLength? bytes = some (count, inner))
    (read : record? (value? bound) (label? (value? bound) bound) count inner = some found) :
    value? (bound + 1) bytes = some found := by
  cases bytes with
  | nil =>
      simp [recordLength?] at announced
  | cons tag tail =>
      rw [value?, noList, announced]
      exact read

theorem mapM_text
    {nameOf : Label × Datum → Option (String × Datum)}
    (spelled : ∀ name value, nameOf (.text name, value) = some (name, value))
    (fields : List (String × Datum)) :
    (fields.map fun (name, value) => (Label.text name, value)).mapM nameOf = some fields := by
  induction fields with
  | nil => rfl
  | cons field rest ih =>
      rw [List.map_cons, List.mapM_cons, ih, spelled]
      rfl

theorem entriesDatum_fields (fields : List (String × Datum)) :
    entriesDatum (fields.map fun (name, value) => (.text name, value)) = .record fields := by
  unfold entriesDatum
  rw [mapM_text fun _ _ => rfl]

mutual

/-- A packed datum is read back, whatever follows it. -/
theorem value?_pack {bound : Nat} (rest : Bytes) :
    (datum : Datum) → datum.isDocument = true → datum.inWords = true →
      datum.isShort = true → datum.depth ≤ bound →
        value? bound (pack datum ++ rest) = some (datum, rest)
  | .null, _, _, _, _ => by
      have start : StartsWith (pack .null ++ rest) (.scalar .null) rest :=
        ⟨by simp, 0xc0, rest, by rw [pack]; rfl, by decide, rfl⟩
      exact start.value?_eq bound
  | .bool false, _, _, _, _ => by
      have start : StartsWith (pack (.bool false) ++ rest) (.scalar (.bool false)) rest :=
        ⟨by simp, 0xc2, rest, by rw [pack]; rfl, by decide, rfl⟩
      exact start.value?_eq bound
  | .bool true, _, _, _, _ => by
      have start : StartsWith (pack (.bool true) ++ rest) (.scalar (.bool true)) rest :=
        ⟨by simp, 0xc3, rest, by rw [pack]; rfl, by decide, rfl⟩
      exact start.value?_eq bound
  | .int value, _, word, _, _ => by
      rw [Datum.inWords] at word
      obtain ⟨atom, same, start⟩ := int_startsWith word rest
      rw [pack, start.value?_eq, same]
  | .real value, _, _, _, _ =>
      (real_startsWith value rest).value?_eq bound
  | .text value, _, _, short, _ => by
      rw [Datum.isShort] at short
      rw [pack, (text_startsWith short rest).value?_eq, toDatum_textAtom]
  | .list items, document, words, short, shallow => by
      rw [Datum.isDocument] at document
      rw [Datum.inWords] at words
      rw [Datum.isShort, Bool.and_eq_true, decide_eq_true_eq] at short
      rw [Datum.depth] at shallow
      obtain ⟨bound, rfl⟩ : ∃ inner, bound = inner + 1 :=
        Nat.exists_eq_add_one.mpr (by omega)
      have inner : Datum.depthItems items ≤ bound := Nat.le_of_succ_le_succ shallow
      have later := items?_packItems rest items document words short.2 inner
      have announced := listLength?_listTag short.1 (packItems items ++ rest)
      rw [pack, List.append_assoc]
      exact value?_of_listLength announced (by rw [list?, later]; rfl)
  | .record fields, document, words, short, shallow => by
      rw [Datum.isDocument] at document
      rw [Datum.inWords] at words
      rw [Datum.isShort, Bool.and_eq_true, decide_eq_true_eq] at short
      rw [Datum.depth] at shallow
      obtain ⟨bound, rfl⟩ : ∃ inner, bound = inner + 1 :=
        Nat.exists_eq_add_one.mpr (by omega)
      have inner : Datum.depthFields fields ≤ bound := Nat.le_of_succ_le_succ shallow
      have later := entries?_packFields rest fields document words short.2 inner
      obtain ⟨noList, announced⟩ :=
        recordLength?_recordTag short.1 (packFields fields ++ rest)
      rw [pack, List.append_assoc]
      refine value?_of_recordLength noList announced ?_
      rw [record?, later]
      exact congrArg (fun datum => some (datum, rest)) (entriesDatum_fields fields)
  | .bytes _, document, _, _, _ | .table _, document, _, _, _
  | .foreign, document, _, _, _ | .unreadable, document, _, _, _ => by
      simp [Datum.isDocument] at document

theorem items?_packItems {bound : Nat} (rest : Bytes) :
    (items : List Datum) → Datum.isDocumentItems items = true →
      Datum.inWordsItems items = true → Datum.isShortItems items = true →
        Datum.depthItems items ≤ bound →
          items? (value? bound) items.length (packItems items ++ rest) = some (items, rest)
  | [], _, _, _, _ => rfl
  | item :: later, document, words, short, shallow => by
      rw [Datum.isDocumentItems, Bool.and_eq_true] at document
      rw [Datum.inWordsItems, Bool.and_eq_true] at words
      rw [Datum.isShortItems, Bool.and_eq_true] at short
      rw [Datum.depthItems, Nat.max_le] at shallow
      have first :=
        value?_pack (packItems later ++ rest) item document.1 words.1 short.1 shallow.1
      have others :=
        items?_packItems rest later document.2 words.2 short.2 shallow.2
      rw [packItems, List.append_assoc, List.length_cons, items?, first]
      simp [others]

theorem entries?_packFields {bound : Nat} (rest : Bytes) :
    (fields : List (String × Datum)) → Datum.isDocumentFields fields = true →
      Datum.inWordsFields fields = true → Datum.isShortFields fields = true →
        Datum.depthFields fields ≤ bound →
          entries? (value? bound) (label? (value? bound) bound) fields.length
              (packFields fields ++ rest) =
            some (fields.map fun (name, value) => (.text name, value), rest)
  | [], _, _, _, _ => rfl
  | (name, value) :: later, document, words, short, shallow => by
      rw [Datum.isDocumentFields, Bool.and_eq_true] at document
      rw [Datum.inWordsFields, Bool.and_eq_true] at words
      rw [Datum.isShortFields, Bool.and_eq_true, Bool.and_eq_true] at short
      rw [Datum.depthFields, Nat.max_le] at shallow
      have label :=
        (text_startsWith short.1 (pack value ++ (packFields later ++ rest))).label?_eq
          (value? bound) bound
      have first :=
        value?_pack (packFields later ++ rest) value document.1 words.1 short.2.1 shallow.1
      have others :=
        entries?_packFields rest later document.2 words.2 short.2.2 shallow.2
      rw [toLabel_textAtom] at label
      rw [packFields, List.append_assoc, List.append_assoc, List.length_cons, entries?, label]
      simp [first, others]

end

/-- A packed message of moderate depth is read back, whatever follows it. -/
theorem read?_pack
    {datum : Datum} (document : datum.isDocument = true) (words : datum.inWords = true)
    (short : datum.isShort = true) (shallow : datum.depth ≤ maxDepth) (rest : Bytes) :
    read? (pack datum ++ rest) = some (datum, rest) :=
  value?_pack rest datum document words short shallow

end SurveyCube.Msgpack
