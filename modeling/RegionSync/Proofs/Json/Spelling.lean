import RegionSync.Json.Scalar
import Mathlib.Tactic

set_option autoImplicit false

/-! # The spellings of a string

A character of a string can be written as it is, by a letter after a backslash, by the four digits
of its code unit, or by those of a surrogate pair (`Spells`). The reader takes every spelling
(`readString_of_isString`), and what the writer makes is one of them (`isString_quote`).
-/

namespace RegionSync.Json

/-! ## Gaps -/

/-- Blanks, or nothing. -/
def IsGap (text : List Char) : Prop := ∀ c ∈ text, isBlank c = true

theorem isGap_nil : IsGap [] := by
  intro c hmem
  cases hmem

theorem skipBlank_gap {gap : List Char} (h : IsGap gap) (text : List Char) :
    skipBlank (gap ++ text) = skipBlank text := by
  induction gap with
  | nil => rfl
  | cons c gap ih =>
      have hc : isBlank c = true := h c List.mem_cons_self
      rw [List.cons_append, skipBlank, List.dropWhile_cons_of_pos hc]
      exact ih fun d hmem => h d (List.mem_cons_of_mem _ hmem)

theorem skipBlank_of_not_blank {c : Char} (h : isBlank c = false) (text : List Char) :
    skipBlank (c :: text) = c :: text :=
  List.dropWhile_cons_of_neg (by simp [h])

/-- Blanks are passed over up to a character that is none. -/
theorem skipBlank_gap_cons {gap : List Char} {c : Char} (h : IsGap gap) (hc : isBlank c = false)
    (text : List Char) : skipBlank (gap ++ c :: text) = c :: text := by
  rw [skipBlank_gap h, skipBlank_of_not_blank hc]

/-! ## Characters -/

/-- The letters that stand for a character after a backslash. -/
def letterEscapes : List (Char × Char) :=
  [('"', '"'), ('\\', '\\'), ('/', '/'), ('b', '\x08'), ('f', '\x0c'), ('n', '\n'), ('r', '\r'),
    ('t', '\t')]

/-- Four hexadecimal digits, and the code unit that they stand for. -/
inductive IsCodeUnit : List Char → Nat → Prop where
  | mk {a b c d : Char} {i j k l : Nat} (hfirst : hexValue? a = some i)
      (hsecond : hexValue? b = some j) (hthird : hexValue? c = some k)
      (hfourth : hexValue? d = some l) :
      IsCodeUnit [a, b, c, d] (((i * 16 + j) * 16 + k) * 16 + l)

/-- The ways to write a character of a string. -/
inductive Spells : List Char → Char → Prop where
  /-- As it is. -/
  | plain {c : Char} (hunquoted : c ≠ '"') (hunescaped : c ≠ '\\') (hprinted : 0x20 ≤ c.toNat) :
      Spells [c] c
  /-- By a letter. -/
  | letter {letter c : Char} (hmeans : (letter, c) ∈ letterEscapes) : Spells ['\\', letter] c
  /-- By its code unit. -/
  | unit {digits : List Char} {c : Char} (hunit : IsCodeUnit digits c.toNat) :
      Spells ('\\' :: 'u' :: digits) c
  /-- By a surrogate pair. -/
  | pair {digits digits' : List Char} {high low : Nat} {c : Char} (hfirst : IsCodeUnit digits high)
      (hsecond : IsCodeUnit digits' low) (hhigh : isHighSurrogate high = true)
      (hlow : isLowSurrogate low = true)
      (hmeans : c.toNat = 0x10000 + (high - 0xD800) * 0x400 + (low - 0xDC00)) :
      Spells ('\\' :: 'u' :: digits ++ '\\' :: 'u' :: digits') c

/-- The ways to write characters one after the other. -/
inductive SpellsAll : List Char → List Char → Prop where
  | nil : SpellsAll [] []
  | cons {part body : List Char} {c : Char} {chars : List Char} (hhead : Spells part c)
      (htail : SpellsAll body chars) : SpellsAll (part ++ body) (c :: chars)

/-- The ways to write a string. -/
def IsString (text : List Char) (value : String) : Prop :=
  ∃ body, SpellsAll body value.toList ∧ text = '"' :: body ++ ['"']

/-! ## Reading -/

section Reading

variable {done rest digits part body chars : List Char} {c : Char}

theorem readStringFrom_escape_u (done text : List Char) :
    readStringFrom .plain done ('\\' :: 'u' :: text) =
      readStringFrom (.digits 3 0 none) done text := rfl

theorem readStringFrom_highDone (high : Nat) (done text : List Char) :
    readStringFrom (.highDone high) done ('\\' :: 'u' :: text) =
      readStringFrom (.digits 3 0 (some high)) done text := rfl

/-- How reading a string goes on after a step. -/
def readStringAfter (done rest : List Char) : StringStep → Except Fault (String × List Char)
  | .more next => readStringFrom next done rest
  | .char meant => readStringFrom .plain (meant :: done) rest
  | .closed => .ok (String.ofList done.reverse, rest)
  | .fault fault => .error fault

theorem readStringFrom_cons (state : Escape) (done : List Char) (c : Char) (rest : List Char) :
    readStringFrom state done (c :: rest) = readStringAfter done rest (stringStep state c rest) := by
  rw [readStringFrom]
  cases stringStep state c rest <;> rfl

/-- Reading the digits of a code unit. -/
theorem readStringFrom_digits {unit : Nat} (h : IsCodeUnit digits unit) (high : Option Nat)
    (done rest : List Char) :
    readStringFrom (.digits 3 0 high) done (digits ++ rest) =
      readStringAfter done rest (unitStep unit high) := by
  cases h with
  | mk hfirst hsecond hthird hfourth =>
      simp only [List.cons_append, List.nil_append, readStringFrom_cons, readStringAfter, stringStep,
        hfirst, hsecond, hthird, hfourth, Nat.zero_mul, Nat.zero_add]

/-- No character is half of a surrogate pair. -/
theorem not_surrogate (c : Char) :
    isHighSurrogate c.toNat = false ∧ isLowSurrogate c.toNat = false := by
  have hvalid : c.toNat < 0xD800 ∨ 0xDFFF < c.toNat ∧ c.toNat < 0x110000 := c.valid
  simp only [isHighSurrogate, isLowSurrogate, Bool.and_eq_false_iff, decide_eq_false_iff_not]
  omega

theorem escapeLetter?_of_mem {letter : Char} (hmeans : (letter, c) ∈ letterEscapes) :
    letter ≠ 'u' ∧ escapeLetter? letter = some c := by
  simp only [letterEscapes, List.mem_cons, Prod.mk.injEq, List.not_mem_nil, or_false] at hmeans
  rcases hmeans with ⟨rfl, rfl⟩ | ⟨rfl, rfl⟩ | ⟨rfl, rfl⟩ | ⟨rfl, rfl⟩ | ⟨rfl, rfl⟩ | ⟨rfl, rfl⟩ |
    ⟨rfl, rfl⟩ | ⟨rfl, rfl⟩ <;> exact ⟨by decide, rfl⟩

/-- One spelled character is read as that character. -/
theorem readStringFrom_of_spells (h : Spells part c) (done rest : List Char) :
    readStringFrom .plain done (part ++ rest) = readStringFrom .plain (c :: done) rest := by
  cases h with
  | plain hunquoted hunescaped hprinted =>
      have hprintable : ¬ c.toNat < 0x20 := by omega
      rw [List.singleton_append, readStringFrom]
      simp only [stringStep, hunquoted, hunescaped, hprintable, if_false]
  | letter hmeans =>
      obtain ⟨hnoUnit, hmeant⟩ := escapeLetter?_of_mem hmeans
      simp [readStringFrom, stringStep, hnoUnit, hmeant]
  | unit hunit =>
      obtain ⟨hnotHigh, hnotLow⟩ := not_surrogate c
      rw [List.cons_append, List.cons_append, readStringFrom_escape_u, readStringFrom_digits hunit]
      simp only [readStringAfter, unitStep, hnotHigh, hnotLow, Bool.false_eq_true, if_false,
        Char.ofNat_toNat]
  | @pair digits digits' high low c hfirst hsecond hhigh hlow hmeans =>
      have hnotLow : isLowSurrogate high = false := by
        simp only [isHighSurrogate, isLowSurrogate, Bool.and_eq_true, Bool.and_eq_false_iff,
          decide_eq_true_eq, decide_eq_false_iff_not] at hhigh ⊢
        omega
      have hjoined : pairChar high low = c := by
        rw [pairChar, ← hmeans, Char.ofNat_toNat]
      rw [List.append_assoc, List.cons_append, List.cons_append, readStringFrom_escape_u,
        readStringFrom_digits hfirst]
      simp only [readStringAfter, unitStep, hnotLow, hhigh, Bool.false_eq_true, if_false, if_true]
      rw [List.cons_append, List.cons_append, readStringFrom_highDone,
        readStringFrom_digits hsecond]
      simp only [readStringAfter, unitStep, hlow, if_true, hjoined]

theorem readStringFrom_of_spellsAll (h : SpellsAll body chars) (done rest : List Char) :
    readStringFrom .plain done (body ++ '"' :: rest) =
      .ok (String.ofList (done.reverse ++ chars), rest) := by
  induction h generalizing done with
  | nil =>
      rw [List.append_nil]
      rfl
  | cons hhead htail ih =>
      rw [List.append_assoc, readStringFrom_of_spells hhead, ih, List.reverse_cons,
        List.append_assoc, List.singleton_append]

theorem readStringBody_of_spellsAll {value : String} (h : SpellsAll body value.toList)
    (rest : List Char) : readStringBody (body ++ '"' :: rest) = .ok (value, rest) := by
  rw [readStringBody, readStringFrom_of_spellsAll h, List.reverse_nil, List.nil_append,
    String.ofList_toList]

/-- **Every spelling of a string is read as that string.** -/
theorem readString_of_isString {text gap : List Char} {value : String} (h : IsString text value)
    (hblank : IsGap gap) (rest : List Char) :
    readString (gap ++ (text ++ rest)) = .ok (value, rest) := by
  obtain ⟨body, hspelled, rfl⟩ := h
  have hopened : skipBlank (gap ++ ('"' :: body ++ ['"'] ++ rest)) =
      '"' :: (body ++ '"' :: rest) := by
    rw [List.append_assoc, List.cons_append, List.singleton_append]
    exact skipBlank_gap_cons hblank rfl _
  rw [readString, hopened]
  exact readStringBody_of_spellsAll hspelled rest

end Reading

/-! ## Writing -/

/-- The digit of a number below sixteen is read as that number. -/
theorem hexValue?_hexDigit {n : Nat} (h : n < 16) : hexValue? (hexDigit n) = some n := by
  have hall : ∀ m : Fin 16, hexValue? (hexDigit m) = some m.val := by decide
  exact hall ⟨n, h⟩

theorem spells_escapeChar (c : Char) : Spells (escapeChar c) c := by
  unfold escapeChar
  split_ifs with hquote hbackslash hbackspace hfeed hnewline hback htab hcontrol
  · exact .letter (by simp [letterEscapes, hquote])
  · exact .letter (by simp [letterEscapes, hbackslash])
  · exact .letter (by simp [letterEscapes, hbackspace])
  · exact .letter (by simp [letterEscapes, hfeed])
  · exact .letter (by simp [letterEscapes, hnewline])
  · exact .letter (by simp [letterEscapes, hback])
  · exact .letter (by simp [letterEscapes, htab])
  · -- the code unit has two leading zeros
    have hzero : hexValue? '0' = some 0 := rfl
    have hunit := IsCodeUnit.mk hzero hzero (hexValue?_hexDigit (n := c.toNat / 16) (by omega))
      (hexValue?_hexDigit (n := c.toNat % 16) (by omega))
    have hvalue : ((0 * 16 + 0) * 16 + c.toNat / 16) * 16 + c.toNat % 16 = c.toNat := by omega
    rw [hvalue] at hunit
    exact .unit hunit
  · exact .plain hquote hbackslash (by omega)

theorem spellsAll_flatMap_escapeChar (chars : List Char) :
    SpellsAll (chars.flatMap escapeChar) chars := by
  induction chars with
  | nil => exact .nil
  | cons c chars ih => exact .cons (spells_escapeChar c) ih

/-- **A written string is a spelling of the string.** -/
theorem isString_quote (value : String) : IsString (quote value) value :=
  ⟨_, spellsAll_flatMap_escapeChar value.toList, rfl⟩

end RegionSync.Json
