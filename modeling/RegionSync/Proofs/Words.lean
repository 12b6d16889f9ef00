import RegionSync.Proofs.Fields
import Mathlib.Data.List.TakeWhile

set_option autoImplicit false

/-! # The words of a text

A blank cuts a text in two without a word across the cut (`words_append_blank`), and a text without
blanks is a single word; everything else about words follows. The words are the maximal runs of
characters that are not blank: `HasRuns` says what these runs are without a scanner, and
`words_eq_iff` that every text has exactly one list of runs, its words. A text that is written word
by word, with a blank behind each, is read back (`words_spaced`).
-/

namespace RegionSync.Text

variable {c : Char} {gap text word rest ty name : List Char} {all runs : List (List Char)}

/-! ## Cutting at blanks -/

/-- A text of blanks only. -/
def IsGap (text : List Char) : Prop := ∀ c ∈ text, isBlank c = true

instance (word : List Char) : Decidable (IsWord word) :=
  haveI := List.decidableBAll (fun c => isBlank c = false) word
  inferInstanceAs (Decidable (_ ∧ _))

theorem IsWord.append {front back : List Char} (hfront : IsWord front) (hback : IsWord back) :
    IsWord (front ++ back) :=
  ⟨List.append_ne_nil_of_left_ne_nil hfront.1 back, List.forall_mem_append.mpr ⟨hfront.2, hback.2⟩⟩

theorem wordsFrom_append {chunk : List Char} (h : ∀ c ∈ chunk, isBlank c = false)
    (word text : List Char) :
    wordsFrom word (chunk ++ text) = wordsFrom (chunk.reverse ++ word) text := by
  induction chunk generalizing word with
  | nil => rfl
  | cons c chunk ih =>
      rw [List.cons_append, wordsFrom, if_neg (by simp [h c (by simp)]),
        ih (List.forall_mem_of_forall_mem_cons h)]
      simp

theorem wordsFrom_append_blank (h : isBlank c = true) (word front back : List Char) :
    wordsFrom word (front ++ c :: back) = wordsFrom word front ++ wordsFrom [] back := by
  induction front generalizing word with
  | nil =>
      simp only [List.nil_append, wordsFrom, if_pos h]
      split_ifs
      · rfl
      · rfl
  | cons d front ih =>
      rw [List.cons_append, wordsFrom, wordsFrom]
      split_ifs
      · exact ih []
      · rw [ih [], List.cons_append]
      · exact ih (d :: word)

/-- **A blank cuts the words of a text.** -/
theorem words_append_blank (h : isBlank c = true) (front back : List Char) :
    words (front ++ c :: back) = words front ++ words back :=
  wordsFrom_append_blank h [] front back

theorem words_gap_append (h : IsGap gap) (text : List Char) : words (gap ++ text) = words text := by
  induction gap with
  | nil => rfl
  | cons c gap ih =>
      have hcut := words_append_blank (h c (by simp)) [] (gap ++ text)
      rw [List.cons_append, ← ih (List.forall_mem_of_forall_mem_cons h)]
      exact hcut

theorem words_of_isGap (h : IsGap gap) : words gap = [] := by
  have hnone := words_gap_append h []
  rw [List.append_nil] at hnone
  exact hnone

theorem words_of_isWord (h : IsWord word) : words word = [word] := by
  have hcut := wordsFrom_append h.2 [] []
  rw [List.append_nil, List.append_nil] at hcut
  rw [words, hcut, wordsFrom, if_neg (by simpa using h.1), List.reverse_reverse]

/-- A word ends at the first blank behind it. -/
theorem words_word_append (h : IsWord word) (hrest : ∀ c ∈ rest.head?, isBlank c = true) :
    words (word ++ rest) = word :: words rest := by
  cases rest with
  | nil =>
      rw [List.append_nil, words_of_isWord h]
      rfl
  | cons c rest =>
      have hc : isBlank c = true := hrest c rfl
      have hskip : words (c :: rest) = words rest := words_append_blank hc [] rest
      rw [words_append_blank hc, words_of_isWord h, hskip, List.singleton_append]

/-- Two words with a blank between them are read back. -/
theorem words_pair (hty : IsWord ty) (hname : IsWord name) :
    words (ty ++ ' ' :: name) = [ty, name] := by
  rw [words_append_blank (by decide), words_of_isWord hty, words_of_isWord hname,
    List.singleton_append]

/-! ## Maximal runs -/

/-- The list `runs` holds the maximal runs of characters of `text` that are not blank, in order: only
blanks stand before the first of them, and what follows it is empty or starts with a blank. -/
def HasRuns : List Char → List (List Char) → Prop
  | text, [] => IsGap text
  | text, run :: runs =>
    ∃ gap rest, text = gap ++ (run ++ rest) ∧ IsGap gap ∧ IsWord run ∧
      (∀ c ∈ rest.head?, isBlank c = true) ∧ HasRuns rest runs

theorem HasRuns.words_eq (h : HasRuns text runs) : words text = runs := by
  induction runs generalizing text with
  | nil => exact words_of_isGap h
  | cons run runs ih =>
      obtain ⟨gap, rest, rfl, hgap, hrun, hhead, hrest⟩ := h
      rw [words_gap_append hgap, words_word_append hrun hhead, ih hrest]

/-- A text that is not all blank has a first run: it starts behind the leading blanks and goes to
the next blank. -/
theorem isGap_or_exists_run (text : List Char) :
    IsGap text ∨ ∃ gap run rest, text = gap ++ (run ++ rest) ∧ IsGap gap ∧ IsWord run ∧
      ∀ c ∈ rest.head?, isBlank c = true := by
  have hgap : IsGap (text.takeWhile isBlank) := fun c hc => List.mem_takeWhile_imp hc
  have htext : text.takeWhile isBlank ++ text.dropWhile isBlank = text :=
    List.takeWhile_append_dropWhile
  cases hbody : text.dropWhile isBlank with
  | nil =>
      rw [hbody, List.append_nil] at htext
      rw [htext] at hgap
      exact Or.inl hgap
  | cons c more =>
      have hc : isBlank c = false := by
        have hfirst := List.head?_dropWhile_not isBlank text
        rw [hbody] at hfirst
        exact hfirst
      refine Or.inr ⟨text.takeWhile isBlank, (c :: more).takeWhile fun d => !isBlank d,
        (c :: more).dropWhile fun d => !isBlank d, ?_, hgap, ⟨by simp [hc], fun d hd => ?_⟩,
        fun d hd => ?_⟩
      · rw [List.takeWhile_append_dropWhile, ← hbody, htext]
      · have hkept := List.mem_takeWhile_imp hd
        simpa using hkept
      · have hstop := List.head?_dropWhile_not (fun d => !isBlank d) (c :: more)
        rw [hd] at hstop
        simpa using hstop

/-- Every text has runs. The induction is on its length: behind the first run there is less. -/
theorem hasRuns_words (text : List Char) : HasRuns text (words text) := by
  induction hlength : text.length using Nat.strong_induction_on generalizing text with
  | _ length ih =>
      rcases isGap_or_exists_run text with hgap | ⟨gap, run, rest, rfl, hgap, hrun, hhead⟩
      · rw [words_of_isGap hgap]
        exact hgap
      · have hshorter : rest.length < length := by
          have hpos := List.length_pos_iff.mpr hrun.1
          rw [← hlength, List.length_append, List.length_append]
          omega
        rw [words_gap_append hgap, words_word_append hrun hhead]
        exact ⟨gap, rest, rfl, hgap, hrun, hhead, ih _ hshorter rest rfl⟩

/-- **The words of a text are its maximal runs.** -/
theorem words_eq_iff : words text = runs ↔ HasRuns text runs := by
  constructor
  · rintro rfl
    exact hasRuns_words text
  · exact HasRuns.words_eq

/-! ## Texts written word by word -/

/-- Some words, each with a blank behind it. -/
def spaced (all : List (List Char)) : List Char := all.flatMap (· ++ [' '])

theorem words_spaced (h : ∀ word ∈ all, IsWord word) : words (spaced all) = all := by
  induction all with
  | nil => rfl
  | cons word all ih =>
      have hrest := ih (List.forall_mem_of_forall_mem_cons h)
      have hcons : spaced (word :: all) = word ++ ' ' :: spaced all := by simp [spaced]
      rw [hcons, words_append_blank (by decide), words_of_isWord (h word (by simp)), hrest,
        List.singleton_append]

theorem spaced_flatMap {α : Type} (fields : List α) (parts : α → List (List Char)) :
    spaced (fields.flatMap parts) = fields.flatMap fun field => spaced (parts field) :=
  List.flatMap_assoc

end RegionSync.Text
