import RegionSync.Proofs.Json.Spelling

set_option autoImplicit false

/-! # Reading back simple values

A codec *takes* a text for a value if it reads that value off the front of every document that goes
on after the text with something that is no part of a number (`Codec.Takes`). Strings are taken in
every spelling, unsigned integers and truth values as they are written. An integer below 2^64 has no
leading zero, its digits are absorbed to the last one, and it is far from the limit of a double, so
none of the checks on numbers stands in its way (`takes_unsigned`).
-/

namespace RegionSync.Json

/-- Whether a text cannot continue a number. -/
def Breaks (rest : List Char) : Prop :=
  ∀ c ∈ rest.head?, c.isDigit = false ∧ c ≠ '.' ∧ isExponentMark c = false

theorem breaks_nil : Breaks [] := by
  intro c hmem
  cases hmem

theorem breaks_cons {c : Char} (hdigit : c.isDigit = false) (hpoint : c ≠ '.')
    (hmark : isExponentMark c = false) (rest : List Char) : Breaks (c :: rest) := by
  intro d hmem
  obtain rfl : c = d := by simpa using hmem
  exact ⟨hdigit, hpoint, hmark⟩

theorem eq_of_isBlank {c : Char} (h : isBlank c = true) :
    c = ' ' ∨ c = '\n' ∨ c = '\t' ∨ c = '\r' := by
  simpa [isBlank, or_assoc] using h

/-- A gap before a text that breaks a number breaks it too. -/
theorem breaks_gap {gap rest : List Char} (hblank : IsGap gap) (hbreaks : Breaks rest) :
    Breaks (gap ++ rest) := by
  cases gap with
  | nil => exact hbreaks
  | cons c gap =>
      rcases eq_of_isBlank (hblank c List.mem_cons_self) with rfl | rfl | rfl | rfl <;>
        exact breaks_cons rfl (by decide) rfl _

/-- Whether a text is read as a value, with blanks before it and what breaks a number after it. -/
def Codec.Takes {α : Type} (codec : Codec α) (text : List Char) (value : α) : Prop :=
  ∀ gap rest, IsGap gap → Breaks rest → codec.read (gap ++ (text ++ rest)) = .ok (value, rest)

/-- A document that is a taken text between blanks has that value. -/
theorem Codec.Takes.parse {α : Type} {codec : Codec α} {text gap gap' : List Char} {value : α}
    (htakes : codec.Takes text value) (hblank : IsGap gap) (hblank' : IsGap gap')
    {document : String} (hspelled : document.toList = gap ++ (text ++ gap')) :
    codec.decode document = .ok value := by
  have hbreaks : Breaks gap' := by
    rw [← List.append_nil gap']
    exact breaks_gap hblank' breaks_nil
  have hempty : skipBlank gap' = [] := by
    rw [← List.append_nil gap', skipBlank_gap hblank']
    rfl
  rw [decode, Json.parse, hspelled, htakes gap gap' hblank hbreaks]
  simp [hempty]

theorem takes_string {text : List Char} {value : String} (h : IsString text value) :
    Codec.string.Takes text value :=
  fun _ rest hblank _ => readString_of_isString h hblank rest

theorem takes_bool (flag : Bool) : Codec.bool.Takes (Codec.bool.write flag) flag := by
  intro gap rest hblank _
  cases flag with
  | true =>
      show readBool (gap ++ 't' :: ('r' :: 'u' :: 'e' :: rest)) = _
      rw [readBool, skipBlank_gap_cons hblank rfl]
      rfl
  | false =>
      show readBool (gap ++ 'f' :: ('a' :: 'l' :: 's' :: 'e' :: rest)) = _
      rw [readBool, skipBlank_gap_cons hblank rfl]
      rfl

/-! ## The digits of a number -/

/-- Only zero starts with a zero. -/
theorem eq_zero_of_head?_toDigits {n : Nat} (h : (Nat.toDigits 10 n).head? = some '0') : n = 0 := by
  induction n using Nat.strong_induction_on with
  | _ n ih =>
    by_cases hsmall : n < 10
    · rw [Nat.toDigits_of_lt_base hsmall] at h
      exact Nat.digitChar_eq_zero.mp (Option.some.inj h)
    · -- the first digit is that of a tenth of the number
      rw [Nat.toDigits_of_base_le (by decide) (by omega),
        List.head?_append_of_ne_nil _ Nat.toDigits_ne_nil] at h
      have htenth := ih (n / 10) (by omega) h
      omega

theorem digitsValue_toDigits (n : Nat) : digitsValue 0 (Nat.toDigits 10 n) = n := by
  have hstep : (fun (m : Nat) (c : Char) => m * 10 + digitValue c) =
      fun m c => 10 * m + (c.toNat - '0'.toNat) := by
    funext m c
    rw [Nat.mul_comm]
    rfl
  rw [digitsValue, hstep, ← Nat.ofDigitChars_eq_foldl]
  exact Nat.ofDigitChars_ten_toDigits

section Digits

variable {digits rest : List Char}

/-- The digits before something that is none. -/
theorem takeDigits_append (hnonempty : digits ≠ []) (hall : ∀ c ∈ digits, c.isDigit = true)
    (hbreaks : Breaks rest) : takeDigits (digits ++ rest) = .ok (digits, rest) := by
  have hended : rest.takeWhile Char.isDigit = [] ∧ rest.dropWhile Char.isDigit = rest := by
    cases rest with
    | nil => exact ⟨rfl, rfl⟩
    | cons c rest =>
        have hc := (hbreaks c rfl).1
        exact ⟨List.takeWhile_cons_of_neg (by simp [hc]), List.dropWhile_cons_of_neg (by simp [hc])⟩
  have htaken : (digits ++ rest).takeWhile Char.isDigit = digits := by
    rw [List.takeWhile_append_of_pos hall, hended.1, List.append_nil]
  have hleft : (digits ++ rest).dropWhile Char.isDigit = rest := by
    rw [List.dropWhile_append_of_pos hall, hended.2]
  cases digits with
  | nil => exact absurd rfl hnonempty
  | cons c digits =>
      rw [List.cons_append] at htaken hleft ⊢
      rw [takeDigits, if_pos (hall c List.mem_cons_self), htaken, hleft]

/-- Digits without a leading zero are read as a plain numeral. -/
theorem takeNumeral_append (hnonempty : digits ≠ []) (hall : ∀ c ∈ digits, c.isDigit = true)
    (hleading : ∀ c more, digits ≠ '0' :: c :: more) (hbreaks : Breaks rest) :
    takeNumeral (digits ++ rest) = .ok (⟨false, digits, none, none⟩, rest) := by
  have hwhole : takeWhole (digits ++ rest) = .ok (digits, rest) := by
    rw [takeWhole, takeDigits_append hnonempty hall hbreaks]
    split
    case h_1 fault hfailed => cases hfailed
    case h_2 c more after hzero => cases hzero; exact absurd rfl (hleading c more)
    case h_3 found after _ htaken => cases htaken; rfl
  have hfraction : takeFraction rest = .ok (none, rest) := by
    unfold takeFraction
    split
    case h_1 after => exact absurd rfl (hbreaks '.' rfl).2.1
    case h_2 => rfl
  have hexponent : takeExponent rest = .ok (none, rest) := by
    cases rest with
    | nil => rfl
    | cons c rest => simp [takeExponent, (hbreaks c rfl).2.2]
  have hunsigned : takeUnsigned false (digits ++ rest) =
      .ok (⟨false, digits, none, none⟩, rest) := by
    simp only [takeUnsigned, hwhole, hfraction, hexponent]
  cases digits with
  | nil => exact absurd rfl hnonempty
  | cons c digits =>
      have hplain : c ≠ '-' := by
        rintro rfl
        exact absurd (hall '-' List.mem_cons_self) (by decide)
      rw [List.cons_append] at hunsigned ⊢
      unfold takeNumeral
      split
      case h_1 after hsame => exact absurd (List.cons.inj hsame).1 hplain
      case h_2 => exact hunsigned

/-- Digits only make a number larger. -/
theorem le_digitsValue (n : Nat) (digits : List Char) : n ≤ digitsValue n digits := by
  induction digits generalizing n with
  | nil => exact Nat.le_refl n
  | cons c digits ih =>
      have hfurther := ih (n * 10 + digitValue c)
      show n ≤ digitsValue (n * 10 + digitValue c) digits
      omega

/-- The digits of a number below 2^64 are absorbed to the last one. -/
theorem absorb_eq {n : Nat} (hsmall : digitsValue n digits < UInt64.size) :
    absorb n digits = (digitsValue n digits, []) := by
  induction digits generalizing n with
  | nil => rfl
  | cons c digits ih =>
      have hfurther : digitsValue n (c :: digits) = digitsValue (n * 10 + digitValue c) digits :=
        rfl
      rw [hfurther] at hsmall ⊢
      have hhere := le_digitsValue (n * 10 + digitValue c) digits
      rw [absorb, if_pos (by omega)]
      exact ih hsmall

end Digits

/-! ## The range of a double -/

/-- Rounding moves a number by one unit in the last place at most. -/
theorem roundDouble_le (n : Nat) : roundDouble n ≤ n + 2 ^ (n.log2 + 1 - 53) := by
  have hscaled : ∀ unit up : Nat, up ≤ 1 → (n / unit + up) * unit ≤ n + unit := by
    intro unit up hsingle
    have hfloor := Nat.div_mul_le_self n unit
    calc (n / unit + up) * unit = n / unit * unit + up * unit := Nat.add_mul _ _ _
      _ ≤ n + 1 * unit := Nat.add_le_add hfloor (Nat.mul_le_mul_right unit hsingle)
      _ = n + unit := by rw [Nat.one_mul]
  refine hscaled _ _ ?_
  split
  · exact Nat.le_refl 1
  · exact Nat.zero_le 1

theorem exceedsDouble_eq_false {n : Nat} (hsmall : n < UInt64.size) :
    exceedsDouble n 0 = false := by
  have hbound : roundDouble n < 2 ^ 65 := by
    have hexponent : n.log2 + 1 - 53 ≤ 11 := by
      by_cases hzero : n = 0
      · simp [hzero]
      · have hlog : n.log2 < 64 := (Nat.log2_lt hzero).mpr hsmall
        omega
    have hunit : 2 ^ (n.log2 + 1 - 53) ≤ 2 ^ 11 := Nat.pow_le_pow_right (by decide) hexponent
    have hrounded := roundDouble_le n
    have hsize : UInt64.size = 2 ^ 64 := rfl
    omega
  have hpower : roundDouble (Nat.pow 10 (0 : Int).toNat) = 1 := by decide +kernel
  have hlimit : 2 ^ 65 < Nat.pow 2 1024 - Nat.pow 2 970 := by decide +kernel
  unfold exceedsDouble
  rw [hpower, Nat.mul_one]
  split_ifs with hnothing hlarge
  · rfl
  · exact absurd hlarge (by decide)
  · rw [decide_eq_false_iff_not, not_le]
    exact hbound.trans hlimit

/-! ## Unsigned integers -/

section Unsigned

variable (n : UInt64)

theorem write_unsigned : Codec.unsigned.write n = Nat.toDigits 10 n.toNat := by
  show (toString n.toNat).toList = _
  rw [Nat.toString_eq_ofList_toDigits, String.toList_ofList]

theorem digitsValue_lt : digitsValue 0 (Nat.toDigits 10 n.toNat) < UInt64.size := by
  rw [digitsValue_toDigits]
  exact n.toNat_lt

theorem readNumeral_toDigits {rest : List Char} (hbreaks : Breaks rest) :
    readNumeral (Nat.toDigits 10 n.toNat ++ rest) =
      .ok (⟨false, Nat.toDigits 10 n.toNat, none, none⟩, rest) := by
  have hleading : ∀ c more, Nat.toDigits 10 n.toNat ≠ '0' :: c :: more := by
    intro c more hzero
    have hvalue : n.toNat = 0 := eq_zero_of_head?_toDigits (by rw [hzero]; rfl)
    rw [hvalue] at hzero
    cases hzero
  have htaken := takeNumeral_append Nat.toDigits_ne_nil
    (fun c hmem => Nat.isDigit_of_mem_toDigits (by decide) (by decide) hmem) hleading hbreaks
  have hinRange : Numeral.isTooLarge ⟨false, Nat.toDigits 10 n.toNat, none, none⟩ = false := by
    simp only [Numeral.isTooLarge, absorb_eq (digitsValue_lt n), Option.getD_none, absorb,
      List.length_nil]
    exact exceedsDouble_eq_false (digitsValue_lt n)
  simp only [readNumeral, htaken, hinRange, Bool.false_eq_true, if_false]

theorem unsigned?_toDigits :
    Numeral.unsigned? ⟨false, Nat.toDigits 10 n.toNat, none, none⟩ = some n := by
  have hsmall := digitsValue_lt n
  rw [digitsValue_toDigits] at hsmall
  simp [Numeral.unsigned?, Numeral.isPlain, digitsValue_toDigits, hsmall]

/-- **An unsigned integer is taken for itself.** -/
theorem takes_unsigned : Codec.unsigned.Takes (Codec.unsigned.write n) n := by
  intro gap rest hblank hbreaks
  have hnumeral := readNumeral_toDigits n hbreaks
  have hmeant := unsigned?_toDigits n
  rw [write_unsigned]
  show readUnsigned (gap ++ (Nat.toDigits 10 n.toNat ++ rest)) = .ok (n, rest)
  cases hdigits : Nat.toDigits 10 n.toNat with
  | nil => exact absurd hdigits Nat.toDigits_ne_nil
  | cons c more =>
      have hdigit : c.isDigit = true :=
        Nat.isDigit_of_mem_toDigits (b := 10) (n := n.toNat) (by decide) (by decide)
          (by rw [hdigits]; exact List.mem_cons_self)
      have hvisible : isBlank c = false := by
        rw [Bool.eq_false_iff]
        intro hc
        rcases eq_of_isBlank hc with rfl | rfl | rfl | rfl <;> cases hdigit
      have hbegins : beginsNumber c = true := by simp [beginsNumber, hdigit]
      rw [hdigits] at hnumeral hmeant
      rw [List.cons_append] at hnumeral ⊢
      rw [readUnsigned, skipBlank_gap_cons hblank hvisible]
      simp only [hbegins, if_true, hnumeral, hmeant]

end Unsigned

end RegionSync.Json
