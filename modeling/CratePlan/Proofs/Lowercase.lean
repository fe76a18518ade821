import CratePlan.Proofs.Words
import CratePlan.Text.CaseOrbit

/-!
# The small letters of a text

The lowercase form of a text is found by tables. What is needed of it where names are read
back holds of every entry of the tables: no character is lost altogether, no capital of ASCII
comes out, and what comes out stays as it is when it is put in small letters again.

The last of these is not seen from one entry. The small letters that one row of the table
leads to must be in no other row, and some rows take every other code point and lead to those
between them. So the code points of all rows and those that they lead to are compared at once,
as the bits of two numbers.

## Main statements

* `lowercase_ne_nil`: a text with characters keeps some.
* `not_isUpper_of_mem_lowercase`: there are no capitals of ASCII in small letters.
* `isSeparator_of_mem_lowercase`: nor separators, if there were none before.
* `lowercase_lowercase`: small letters stay as they are.
-/

namespace CratePlan.Text

/-- What becomes of a character that stands alone. -/
theorem lowercaseChar_cases (c : Char) :
    (c.toNat < 128 ∧ lowercaseChar c = [c.toLower]) ∨ lowercaseChar c = ['i', '\u0307'] ∨
      (∃ shift ∈ lowercaseShifts, shift.covers c.toNat = true ∧
        lowercaseChar c = [Char.ofNat (shift.image c.toNat)]) ∨
      (128 ≤ c.toNat ∧ lowercaseChar c = [c]) := by
  unfold lowercaseChar
  split
  case isTrue hAscii => exact .inl ⟨hAscii, rfl⟩
  case isFalse hBeyond =>
      split
      case isTrue => exact .inr (.inl rfl)
      case isFalse =>
          split
          case h_1 shift hShift =>
              have hCovers : shift.covers c.toNat = true := by simpa using List.find?_some hShift
              exact .inr (.inr (.inl ⟨shift, List.mem_of_find?_eq_some hShift, hCovers, rfl⟩))
          case h_2 => exact .inr (.inr (.inr ⟨by omega, rfl⟩))

theorem lowercaseChar_ne_nil (c : Char) : lowercaseChar c ≠ [] := by
  rcases lowercaseChar_cases c with ⟨-, h⟩ | h | ⟨shift, -, -, h⟩ | ⟨-, h⟩ <;> simp [h]

/-- A text with characters has some in its lowercase form. -/
theorem lowercase_ne_nil {cs : List Char} (h : cs ≠ []) : lowercase cs ≠ [] := by
  cases cs with
  | nil => exact absurd rfl h
  | cons c rest =>
      unfold lowercase lowercaseAfter
      split
      case isTrue => simp
      case isFalse => simp [lowercaseChar_ne_nil]

/-- A character of the lowercase form is a sigma or comes from one character. -/
theorem mem_lowercaseAfter_cases {cs : List Char} {d : Char} :
    ∀ {before : List Char}, d ∈ lowercaseAfter before cs →
      d ∈ [finalSigma, smallSigma] ∨ ∃ c ∈ cs, d ∈ lowercaseChar c := by
  induction cs with
  | nil => simp [lowercaseAfter]
  | cons c rest ih =>
      intro before h
      rw [lowercaseAfter] at h
      rcases List.mem_append.1 h with hFirst | hRest
      · split at hFirst
        case isTrue =>
            rw [List.mem_singleton.1 hFirst]
            split <;> simp
        case isFalse => exact .inr ⟨c, by simp, hFirst⟩
      · rcases ih hRest with hSigma | ⟨other, hOther, hd⟩
        · exact .inl hSigma
        · exact .inr ⟨other, List.mem_cons_of_mem _ hOther, hd⟩

/-- What holds of both small sigmas, and of what each character of a text becomes on its own,
holds of the lowercase form. -/
theorem forall_mem_lowercase {p : Char → Prop} {cs : List Char} (hFinal : p finalSigma)
    (hSmall : p smallSigma) (hChar : ∀ c ∈ cs, ∀ d ∈ lowercaseChar c, p d) :
    ∀ d ∈ lowercase cs, p d := by
  intro d hd
  rcases mem_lowercaseAfter_cases hd with hSigma | ⟨c, hc, hd⟩
  · simp only [List.mem_cons, List.not_mem_nil, or_false] at hSigma
    rcases hSigma with rfl | rfl
    · exact hFinal
    · exact hSmall
  · exact hChar c hc d hd

/-! ## Rows of the table -/

theorem CaseShift.mem_codes {shift : CaseShift} {n : Nat} (h : shift.covers n = true) :
    n ∈ shift.codes := by
  simp only [covers, Bool.and_eq_true, decide_eq_true_eq, beq_iff_eq] at h
  obtain ⟨⟨hFirst, hLast⟩, hStep⟩ := h
  have hSteps : shift.step * ((n - shift.first) / shift.step) = n - shift.first :=
    Nat.mul_div_cancel' (Nat.dvd_of_mod_eq_zero hStep)
  have hCount : (n - shift.first) / shift.step ≤ (shift.last - shift.first) / shift.step :=
    Nat.div_le_div_right (by omega)
  exact List.mem_map.2 ⟨_, List.mem_range.2 (Nat.lt_succ_of_le hCount), by omega⟩

/-- A number with a bit for each code point of a list. Two lists are compared in one step. -/
def bits (codes : List Nat) : Nat :=
  codes.foldr (fun code others => 1 <<< code ||| others) 0

theorem testBit_bits {codes : List Nat} {n : Nat} :
    (bits codes).testBit n = true ↔ n ∈ codes := by
  induction codes with
  | nil => simp [bits]
  | cons code codes ih =>
      rw [bits, List.foldr_cons, ← bits, Nat.testBit_or, Bool.or_eq_true, ih, List.mem_cons,
        Nat.one_shiftLeft, Nat.testBit_two_pow, decide_eq_true_eq, eq_comm]

theorem not_mem_of_bits {left right : List Nat} (h : bits left &&& bits right = 0) {n : Nat}
    (hLeft : n ∈ left) : n ∉ right := by
  intro hRight
  have hBoth : (bits left &&& bits right).testBit n = true := by
    rw [Nat.testBit_and, testBit_bits.2 hLeft, testBit_bits.2 hRight, Bool.and_true]
  rw [h, Nat.zero_testBit] at hBoth
  cases hBoth

/-- The dotted capital as a row of its own. It is in none of the table, since two characters
come of it. -/
def dottedRow : CaseShift := ⟨0x0130, 0x0130, 1, 0x0069⟩

/-- Nothing that a row leads to is covered by one, or is the dotted capital. -/
theorem not_covers_image {shift other : CaseShift} (hShift : shift ∈ lowercaseShifts)
    (hOther : other ∈ dottedRow :: lowercaseShifts) {n : Nat} (hn : shift.covers n = true) :
    other.covers (shift.image n) = false := by
  have hTable : bits ((dottedRow :: lowercaseShifts).flatMap CaseShift.codes) &&&
      bits (lowercaseShifts.flatMap fun shift => shift.codes.map shift.image) = 0 := by
    decide +kernel
  rw [Bool.eq_false_iff]
  intro hCovers
  have hSource : shift.image n ∈ (dottedRow :: lowercaseShifts).flatMap CaseShift.codes :=
    List.mem_flatMap.2 ⟨other, hOther, CaseShift.mem_codes hCovers⟩
  have hTarget : shift.image n ∈
      lowercaseShifts.flatMap fun shift => shift.codes.map shift.image :=
    List.mem_flatMap.2 ⟨shift, hShift, List.mem_map_of_mem (CaseShift.mem_codes hn)⟩
  exact not_mem_of_bits hTable hSource hTarget

/-- All rows lead behind the capitals and separators of ASCII, and to no blank. -/
theorem target_of_mem : ∀ shift ∈ lowercaseShifts, 95 < shift.target ∧
    ∀ range ∈ blankRanges, range.2 < shift.target ∨ shift.image shift.last < range.1 := by
  decide +kernel

/-- A code that no character has stands for the first of all characters. -/
theorem ofNat_cases (code : Nat) :
    Char.ofNat code = Char.ofNat 0 ∨ (Char.ofNat code).toNat = code := by
  by_cases hValid : code.isValidChar
  · exact .inr (by rw [Char.toNat_ofNat, if_pos hValid])
  · refine .inl ?_
    rw [Char.ofNat, dif_neg hValid]
    rfl

/-! ## Capitals -/

theorem not_isUpper_of_lt {c : Char} (h : 90 < c.toNat) : c.isUpper = false := by
  have hCode : c.toNat = c.val.toNat := rfl
  have hLast : 'Z'.val.toNat = 90 := rfl
  simp only [Char.isUpper, ge_iff_le, UInt32.le_iff_toNat_le, decide_eq_false_iff_not]
  omega

/-- A code that no character has stands for no capital either. -/
theorem not_isUpper_ofNat {code : Nat} (h : 90 < code) : (Char.ofNat code).isUpper = false := by
  rcases ofNat_cases code with hZero | hCode
  · rw [hZero]
    rfl
  · exact not_isUpper_of_lt (hCode.symm ▸ h)

theorem not_isUpper_of_mem_lowercaseChar {c d : Char} (h : d ∈ lowercaseChar c) :
    d.isUpper = false := by
  rcases lowercaseChar_cases c with
    ⟨-, hc⟩ | hc | ⟨shift, hShift, -, hc⟩ | ⟨hBeyond, hc⟩ <;>
    simp only [hc, List.mem_cons, List.not_mem_nil, or_false] at h
  · rw [h]
    exact Char.isUpper_toLower_eq_false c
  · rcases h with rfl | rfl <;> decide
  · have hTarget := (target_of_mem shift hShift).1
    rw [h]
    exact not_isUpper_ofNat (by unfold CaseShift.image; omega)
  · rw [h]
    exact not_isUpper_of_lt (by omega)

/-- There are no capitals of ASCII in the lowercase form of a text. -/
theorem not_isUpper_of_mem_lowercase {cs : List Char} {d : Char} (h : d ∈ lowercase cs) :
    d.isUpper = false :=
  forall_mem_lowercase (by decide) (by decide)
    (fun _ _ _ => not_isUpper_of_mem_lowercaseChar) d h

/-! ## Small letters in small letters -/

/-- What a row leads to stays as it is. -/
theorem lowercaseChar_ofNat_image {shift : CaseShift} (hShift : shift ∈ lowercaseShifts) {n : Nat}
    (hn : shift.covers n = true) :
    lowercaseChar (Char.ofNat (shift.image n)) = [Char.ofNat (shift.image n)] := by
  have hFree : ∀ other ∈ dottedRow :: lowercaseShifts, other.covers (shift.image n) = false :=
    fun other hOther => not_covers_image hShift hOther hn
  obtain ⟨hDotted, hFree⟩ := List.forall_mem_cons.1 hFree
  have hTarget := (target_of_mem shift hShift).1
  have hCapital : (Char.ofNat (shift.image n)).isUpper = false :=
    not_isUpper_ofNat (by unfold CaseShift.image; omega)
  rcases ofNat_cases (shift.image n) with hZero | hCode
  · rw [hZero]
    decide
  · unfold lowercaseChar
    split
    case isTrue => rw [Char.toLower_eq_of_not_isUpper (by simp [hCapital])]
    case isFalse =>
        split
        case isTrue hSame =>
            rw [← hCode, hSame] at hDotted
            exact absurd hDotted (by decide)
        case isFalse =>
            split
            case h_1 other hOther =>
                have hCovers := List.find?_some hOther
                rw [hCode, hFree other (List.mem_of_find?_eq_some hOther)] at hCovers
                cases hCovers
            case h_2 => rfl

/-- What a character becomes stays as it is. -/
theorem lowercaseChar_of_mem_lowercaseChar {c d : Char} (h : d ∈ lowercaseChar c) :
    lowercaseChar d = [d] := by
  rcases lowercaseChar_cases c with
    ⟨hAscii, hc⟩ | hc | ⟨shift, hShift, hCovers, hc⟩ | ⟨-, hc⟩ <;>
    simp only [hc, List.mem_cons, List.not_mem_nil, or_false] at h
  · have hAll := forall_ascii (p := fun c => lowercaseChar c.toLower == [c.toLower])
      (by decide +kernel) hAscii
    rw [h]
    exact beq_iff_eq.1 hAll
  · rcases h with rfl | rfl <;> decide
  · rw [h]
    exact lowercaseChar_ofNat_image hShift hCovers
  · rw [h, hc]

/-- A text stays as it is if each of its characters does. A capital sigma does not. -/
theorem lowercaseAfter_eq_self {cs : List Char} (h : ∀ c ∈ cs, lowercaseChar c = [c]) :
    ∀ before, lowercaseAfter before cs = cs := by
  induction cs with
  | nil => exact fun _ => rfl
  | cons c rest ih =>
      intro before
      obtain ⟨hc, hRest⟩ := List.forall_mem_cons.1 h
      have hSigma : c ≠ capitalSigma := by
        rintro rfl
        exact absurd hc (by decide)
      simp [lowercaseAfter, hSigma, hc, ih hRest]

/-- The lowercase form of a text is its own lowercase form. -/
theorem lowercase_lowercase (cs : List Char) : lowercase (lowercase cs) = lowercase cs :=
  lowercaseAfter_eq_self (forall_mem_lowercase (by decide) (by decide)
    fun _ _ _ => lowercaseChar_of_mem_lowercaseChar) []

/-! ## Separators -/

open Words

/-- What a row leads to is no separator. -/
theorem isSeparator_ofNat_image {shift : CaseShift} (hShift : shift ∈ lowercaseShifts) {n : Nat}
    (hn : shift.covers n = true) : isSeparator (Char.ofNat (shift.image n)) = false := by
  obtain ⟨hAscii, hBlanks⟩ := target_of_mem shift hShift
  rcases ofNat_cases (shift.image n) with hZero | hCode
  · rw [hZero]
    decide
  · simp only [CaseShift.covers, Bool.and_eq_true, decide_eq_true_eq] at hn
    have hLast : shift.image n ≤ shift.image shift.last := by unfold CaseShift.image; omega
    have hTarget : shift.target ≤ shift.image n := Nat.le_add_right ..
    have hMarks : ∀ mark : Char, mark.toNat ≤ 95 → Char.ofNat (shift.image n) ≠ mark := by
      rintro mark hMark rfl
      omega
    have hBlank : isBlank (Char.ofNat (shift.image n)) = false := by
      simp only [isBlank, CodeRanges.holds, List.any_eq_false, hCode, Bool.and_eq_true,
        decide_eq_true_eq]
      intro range hRange
      have hApart := hBlanks range hRange
      omega
    simp [isSeparator, hBlank, hMarks '_' (by decide), hMarks '-' (by decide)]

/-- A character that is no separator becomes none. -/
theorem isSeparator_of_mem_lowercaseChar {c d : Char} (h : isSeparator c = false)
    (hd : d ∈ lowercaseChar c) : isSeparator d = false := by
  rcases lowercaseChar_cases c with
    ⟨hAscii, hc⟩ | hc | ⟨shift, hShift, hCovers, hc⟩ | ⟨-, hc⟩ <;>
    simp only [hc, List.mem_cons, List.not_mem_nil, or_false] at hd
  · have hAll := forall_ascii (p := fun c => isSeparator c || !isSeparator c.toLower)
      (by decide +kernel) hAscii
    simpa [hd, h] using hAll
  · rcases hd with rfl | rfl <;> decide
  · rw [hd]
    exact isSeparator_ofNat_image hShift hCovers
  · rwa [hd]

/-- There are no separators in the lowercase form of a text without any. -/
theorem isSeparator_of_mem_lowercase {cs : List Char} (h : ∀ c ∈ cs, isSeparator c = false)
    {d : Char} (hd : d ∈ lowercase cs) : isSeparator d = false :=
  forall_mem_lowercase (by decide) (by decide)
    (fun c hc _ => isSeparator_of_mem_lowercaseChar (h c hc)) d hd

end CratePlan.Text
