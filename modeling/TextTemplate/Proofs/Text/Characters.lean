import TextTemplate.Text.Alphabetic
import TextTemplate.Text.Blank
import TextTemplate.Text.Digits
import TextTemplate.Text.Numeric

/-!
# Characters

Blanks are neither letters nor numbers, and digits are neither letters nor blanks. Two tables of
ranges have nothing in common when no range of one meets a range of the other, which is checked on
the tables. The digits of a number are worth that number.

## Main definitions

- `apart` — a test whether two tables have nothing in common
-/

namespace TextTemplate.Text

/-- Whether no range of one table meets a range of the other. -/
def apart (ranges ranges' : List (Nat × Nat)) : Bool :=
  ranges.all fun (low, high) => ranges'.all fun (low', high') => high < low' || high' < low

theorem exists_of_inRanges {n : Nat} {ranges : List (Nat × Nat)} (h : inRanges n ranges = true) :
    ∃ range ∈ ranges, range.1 ≤ n ∧ n ≤ range.2 := by
  induction ranges with
  | nil => simp [inRanges] at h
  | cons range ranges ih =>
    simp only [inRanges, Bool.and_eq_true, Bool.or_eq_true, decide_eq_true_eq] at h
    obtain ⟨hlow, hhigh | hmore⟩ := h
    · exact ⟨range, List.mem_cons_self, hlow, hhigh⟩
    · obtain ⟨range', hmem, hrange⟩ := ih hmore
      exact ⟨range', List.mem_cons_of_mem _ hmem, hrange⟩

theorem inRanges_eq_false_of_apart {ranges ranges' : List (Nat × Nat)} {n : Nat}
    (hapart : apart ranges ranges' = true) (h : inRanges n ranges = true) :
    inRanges n ranges' = false := by
  rw [← Bool.not_eq_true]
  intro h'
  obtain ⟨range, hmem, hlow, hhigh⟩ := exists_of_inRanges h
  obtain ⟨range', hmem', hlow', hhigh'⟩ := exists_of_inRanges h'
  have hmeet := List.all_eq_true.1 (List.all_eq_true.1 hapart range hmem) range' hmem'
  simp only [Bool.or_eq_true, decide_eq_true_eq] at hmeet
  omega

theorem isAlphabetic_of_isBlank {c : Char} (h : isBlank c = true) : isAlphabetic c = false := by
  have hapart : apart blankRanges alphabeticRanges = true := by decide +kernel
  exact inRanges_eq_false_of_apart hapart h

theorem isNumeric_of_isBlank {c : Char} (h : isBlank c = true) : isNumeric c = false := by
  have hapart : apart blankRanges numericRanges = true := by decide +kernel
  exact inRanges_eq_false_of_apart hapart h

/-- The code points of the decimal digits. -/
def digitRanges : List (Nat × Nat) :=
  [(0x30, 0x39)]

theorem inRanges_of_isDigit {c : Char} (h : c.isDigit = true) :
    inRanges c.toNat digitRanges = true := by
  simp only [Char.isDigit, Bool.and_eq_true, decide_eq_true_eq, ge_iff_le, UInt32.le_iff_toNat_le]
    at h
  simpa [inRanges, digitRanges] using h

theorem isAlphabetic_of_isDigit {c : Char} (h : c.isDigit = true) : isAlphabetic c = false := by
  have hapart : apart digitRanges alphabeticRanges = true := by decide +kernel
  exact inRanges_eq_false_of_apart hapart (inRanges_of_isDigit h)

theorem inRanges_cons {n low high : Nat} (hlow : low ≤ n) (hhigh : n ≤ high)
    (ranges : List (Nat × Nat)) : inRanges n ((low, high) :: ranges) = true := by
  simp [inRanges, hlow, hhigh]

theorem isNumeric_of_isDigit {c : Char} (h : c.isDigit = true) : isNumeric c = true := by
  obtain ⟨range, hmem, hlow, hhigh⟩ := exists_of_inRanges (inRanges_of_isDigit h)
  obtain rfl : range = (0x30, 0x39) := List.mem_singleton.1 hmem
  exact inRanges_cons hlow hhigh numericRanges.tail

theorem isBlank_of_isDigit {c : Char} (h : c.isDigit = true) : isBlank c = false := by
  have hapart : apart digitRanges blankRanges = true := by decide +kernel
  exact inRanges_eq_false_of_apart hapart (inRanges_of_isDigit h)

/-- What a number begins with is none of the characters that no number begins with. -/
theorem notMem_of_isDigit_or_minus {c : Char} (hc : c.isDigit = true ∨ c = '-')
    {others : List Char} (hothers : others.all (fun d => !d.isDigit && d ≠ '-') = true) :
    c ∉ others := by
  intro hmem
  have hfalse := List.all_eq_true.1 hothers c hmem
  obtain hdigit | rfl := hc
  · rw [hdigit] at hfalse
    cases hfalse
  · cases hfalse

/-- The digits of a number are worth that number. -/
theorem decimalValue_toDigits (n : Nat) : decimalValue (Nat.toDigits 10 n) = n := by
  induction n using Nat.strongRecOn with
  | ind n ih =>
    by_cases hn : n < 10
    · rw [Nat.toDigits_of_lt_base hn]
      simp [decimalValue, digitValue, Nat.toNat_digitChar_of_lt_ten hn]
    · have hdigit : n % 10 < 10 := Nat.mod_lt n (by decide)
      have happend : Nat.toDigits 10 n = Nat.toDigits 10 (n / 10) ++ [(n % 10).digitChar] := by
        rw [← Nat.toDigits_of_lt_base hdigit,
          Nat.toDigits_append_toDigits (by decide) (by omega) hdigit, Nat.div_add_mod]
      rw [happend, decimalValue_append_singleton, ih (n / 10) (by omega), digitValue,
        Nat.toNat_digitChar_of_lt_ten hdigit, show '0'.toNat = 48 from rfl]
      omega

/-- A natural number has digits, and nothing else. -/
theorem toDigits_spec (n : Nat) : ∃ c cs, Nat.toDigits 10 n = c :: cs ∧ c.isDigit = true ∧
    (Nat.toDigits 10 n).all Char.isDigit = true := by
  have hdigits : ∀ d ∈ Nat.toDigits 10 n, d.isDigit = true := fun d hd =>
    Nat.isDigit_of_mem_toDigits (by decide) (by decide) hd
  obtain ⟨c, cs, hcons⟩ := List.exists_cons_of_ne_nil (Nat.toDigits_ne_nil (b := 10) (n := n))
  exact ⟨c, cs, hcons, hdigits c (by rw [hcons]; exact List.mem_cons_self),
    List.all_eq_true.2 hdigits⟩

end TextTemplate.Text
