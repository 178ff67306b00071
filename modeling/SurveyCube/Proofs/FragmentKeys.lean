import SurveyCube.Stitch.Manifest

/-!
# Keys of fragments

The key of a fragment and the name of its file are joined from parts by
separators.  The first part is a path or the common beginning of file names and
may hold all of the separators, so a key is taken apart from its end.

* `eq_of_last_separator`: a text determines what stands before and behind its
  last separator.
* `Triple.eq_of_hyphenated`: numerals hold no hyphen, so the three numbers at
  the end of a text are determined as well.
* Two fragments have one key only if they are one fragment of one volume.
-/

namespace SurveyCube

/-! ## Separators -/

section Separators

variable {α : Type} {separator : α} {front back otherFront otherBack : List α}

/-- What stands behind the last separator does not reach back beyond another one. -/
theorem eq_nil_of_last_separator {between : List α} (plain : separator ∉ back)
    (same : separator :: back = between ++ separator :: otherBack) : between = [] := by
  cases between with
  | nil => rfl
  | cons first rest =>
      rw [(List.cons.inj same).2] at plain
      exact absurd (List.mem_append_right rest List.mem_cons_self) plain

theorem eq_of_last_separator (plain : separator ∉ back) (otherPlain : separator ∉ otherBack)
    (same : front ++ separator :: back = otherFront ++ separator :: otherBack) :
    front = otherFront ∧ back = otherBack := by
  -- One of the fronts goes on where the other one ends, but by nothing.
  have fronts : front = otherFront := by
    rcases List.append_eq_append_iff.mp same with ⟨between, longer, rest⟩ | ⟨between, longer, rest⟩
    · rw [longer, eq_nil_of_last_separator plain rest, List.append_nil]
    · rw [longer, eq_nil_of_last_separator otherPlain rest, List.append_nil]
  rw [fronts] at same
  exact ⟨fronts, (List.cons.inj (List.append_cancel_left same)).2⟩

/-- The first separator is the last one of the reversed text. -/
theorem eq_of_first_separator (plain : separator ∉ front) (otherPlain : separator ∉ otherFront)
    (same : front ++ separator :: back = otherFront ++ separator :: otherBack) :
    front = otherFront ∧ back = otherBack := by
  have reversed : back.reverse ++ separator :: front.reverse =
      otherBack.reverse ++ separator :: otherFront.reverse := by
    simpa using congrArg List.reverse same
  rw [← List.mem_reverse] at plain otherPlain
  obtain ⟨backs, fronts⟩ := eq_of_last_separator plain otherPlain reversed
  exact ⟨List.reverse_inj.mp fronts, List.reverse_inj.mp backs⟩

end Separators

/-! ## Numbers between hyphens -/

namespace Decimal

theorem toDigits_injective {n m : Nat} (same : Nat.toDigits 10 n = Nat.toDigits 10 m) :
    n = m := by
  have read := congrArg (fun digits => Nat.ofDigitChars 10 digits 0) same
  simpa using read

theorem not_mem_toDigits {c : Char} (mark : c.isDigit = false) (n : Nat) :
    c ∉ Nat.toDigits 10 n := by
  intro member
  have digit : c.isDigit = true := Nat.isDigit_of_mem_toDigits (by decide) (by decide) member
  rw [digit] at mark
  cases mark

end Decimal

namespace Triple

theorem toList_hyphenated (t : Triple) :
    t.hyphenated.toList =
      Nat.toDigits 10 t.x ++ '-' :: (Nat.toDigits 10 t.y ++ '-' :: Nat.toDigits 10 t.z) := by
  simp [hyphenated, toString]

theorem not_mem_hyphenated {c : Char} (mark : c.isDigit = false) (other : c ≠ '-')
    (t : Triple) : c ∉ t.hyphenated.toList := by
  rw [toList_hyphenated]
  simp [other, Decimal.not_mem_toDigits mark]

/-- The three numbers behind the last three hyphens of a text. -/
theorem eq_of_hyphenated {front otherFront : List Char} {t other : Triple}
    (same : front ++ '-' :: t.hyphenated.toList =
      otherFront ++ '-' :: other.hyphenated.toList) :
    front = otherFront ∧ t = other := by
  have plain := Decimal.not_mem_toDigits (c := '-') rfl
  have grouped (front : List Char) (t : Triple) :
      front ++ '-' :: t.hyphenated.toList =
        ((front ++ '-' :: Nat.toDigits 10 t.x) ++ '-' :: Nat.toDigits 10 t.y) ++
          '-' :: Nat.toDigits 10 t.z := by
    simp [toList_hyphenated]
  rw [grouped, grouped] at same
  obtain ⟨same, z⟩ := eq_of_last_separator (plain t.z) (plain other.z) same
  obtain ⟨same, y⟩ := eq_of_last_separator (plain t.y) (plain other.y) same
  obtain ⟨same, x⟩ := eq_of_last_separator (plain t.x) (plain other.x) same
  refine ⟨same, Triple.ext ?_ ?_ ?_⟩
  · exact Decimal.toDigits_injective x
  · exact Decimal.toDigits_injective y
  · exact Decimal.toDigits_injective z

theorem hyphenated_injective {t other : Triple} (same : t.hyphenated = other.hyphenated) :
    t = other := by
  have behind : [] ++ '-' :: t.hyphenated.toList = [] ++ '-' :: other.hyphenated.toList := by
    rw [same]
  exact (eq_of_hyphenated behind).2

end Triple

/-! ## Keys and names of files -/

theorem toList_fragmentKey (volume : String) (shape : Shape) (fileExtension : String)
    (id : FragmentId) :
    (fragmentKey volume shape fileExtension id).toList =
      (volume.toList ++ '/' :: shape.hyphenated.toList) ++ '/' ::
        (id.hyphenated.toList ++ '.' :: fileExtension.toList) := by
  simp [fragmentKey, toString]

theorem toList_fragmentPath (basename : String) (id : FragmentId) :
    (fragmentPath basename id).toList =
      (basename.toList ++ '-' :: id.hyphenated.toList) ++ ".f32".toList := by
  simp [fragmentPath, toString]

/-- A key determines the volume and the fragment, if no extension has a slash. -/
theorem fragmentKey_injective
    {volume otherVolume : String} {shape otherShape : Shape}
    {fileExtension otherExtension : String} {id otherId : FragmentId}
    (plain : '/' ∉ fileExtension.toList) (otherPlain : '/' ∉ otherExtension.toList)
    (same : fragmentKey volume shape fileExtension id =
      fragmentKey otherVolume otherShape otherExtension otherId) :
    volume = otherVolume ∧ shape = otherShape ∧ fileExtension = otherExtension ∧
      id = otherId := by
  have noSlash := Triple.not_mem_hyphenated (c := '/') rfl (by decide)
  have noDot := Triple.not_mem_hyphenated (c := '.') rfl (by decide)
  have name (id : FragmentId) {fileExtension : String} (plain : '/' ∉ fileExtension.toList) :
      '/' ∉ id.hyphenated.toList ++ '.' :: fileExtension.toList := by
    simp [noSlash, plain]
  have texts := congrArg String.toList same
  rw [toList_fragmentKey, toList_fragmentKey] at texts
  obtain ⟨directories, names⟩ :=
    eq_of_last_separator (name id plain) (name otherId otherPlain) texts
  obtain ⟨volumes, shapes⟩ :=
    eq_of_last_separator (noSlash shape) (noSlash otherShape) directories
  obtain ⟨ids, extensions⟩ := eq_of_first_separator (noDot id) (noDot otherId) names
  refine ⟨String.toList_injective volumes, ?_, String.toList_injective extensions, ?_⟩
  · exact Triple.hyphenated_injective (String.toList_injective shapes)
  · exact Triple.hyphenated_injective (String.toList_injective ids)

/-- The name of a file determines the common beginning of the names and the
fragment. -/
theorem fragmentPath_injective {basename otherBasename : String} {id otherId : FragmentId}
    (same : fragmentPath basename id = fragmentPath otherBasename otherId) :
    basename = otherBasename ∧ id = otherId := by
  have texts := congrArg String.toList same
  rw [toList_fragmentPath, toList_fragmentPath, List.append_left_inj] at texts
  obtain ⟨basenames, ids⟩ := Triple.eq_of_hyphenated texts
  exact ⟨String.toList_injective basenames, ids⟩

end SurveyCube
