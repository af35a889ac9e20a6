import TextTemplate.Number.Basic
import TextTemplate.Proofs.Text.Characters
import Mathlib.Tactic.Ring

/-!
# Whole numbers and doubles

Whole numbers differ in their texts. The double nearest to a whole number from 2⁵² up is a whole
number again, off by at most half a step between doubles. A double that is a whole number
interpolates as digits alone: the grid of whole numbers has a point that rounds to it, so its
shortest decimal has no places.

## Main definitions

- `Binary64.IsWhole` — the magnitude of a double as a natural number
- `Binary64.shortestWhole` — the whole number that the shortest decimal of a double is

## Main statements

- `Number.integerText_injective` — whole numbers with the same text are equal
- `Binary64.exists_ofNat?` — the double nearest to a whole number
- `Number.display_whole` — the text of a double that is a whole number
-/

namespace TextTemplate

open Text

-- ════════════════════════════════════════════════════════════════════════
-- Texts of whole numbers
-- ════════════════════════════════════════════════════════════════════════

namespace Number

/-- A number multiplied by a power of ten has zeros behind its digits. -/
theorem toDigits_mul_pow {n : Nat} (hn : 0 < n) (zeros : Nat) :
    Nat.toDigits 10 (n * 10 ^ zeros) = Nat.toDigits 10 n ++ List.replicate zeros '0' := by
  induction zeros with
  | zero => simp
  | succ zeros ih =>
    have hpos : 0 < n * 10 ^ zeros := Nat.mul_pos hn (Nat.pow_pos (by decide))
    have hnext : n * 10 ^ (zeros + 1) = 10 * (n * 10 ^ zeros) + 0 := by ring
    rw [hnext, ← Nat.toDigits_append_toDigits (by decide) hpos (by decide), ih,
      List.append_assoc, List.replicate_succ']
    rfl

theorem toList_integerText (i : Int) :
    (integerText i).toList = (if i < 0 then ['-'] else []) ++ Nat.toDigits 10 i.natAbs := by
  cases i with
  | ofNat n => simp [integerText]
  | negSucc n => simp [integerText, Int.negSucc_lt_zero]

/-- The text of a whole number begins with a digit or a minus sign. -/
theorem exists_toList_integerText (i : Int) :
    ∃ c cs, (integerText i).toList = c :: cs ∧ (c.isDigit = true ∨ c = '-') := by
  obtain ⟨c, cs, hcons, hc, -⟩ := toDigits_spec i.natAbs
  rw [toList_integerText]
  split
  · exact ⟨'-', _, rfl, .inr rfl⟩
  · exact ⟨c, cs, hcons, .inl hc⟩

theorem minus_mem_integerText_iff (i : Int) : '-' ∈ (integerText i).toList ↔ i < 0 := by
  have hdigits : '-' ∉ Nat.toDigits 10 i.natAbs := fun hmem =>
    absurd (Nat.isDigit_of_mem_toDigits (by decide) (by decide) hmem) (by decide)
  rw [toList_integerText]
  split
  · next hneg => exact iff_of_true List.mem_cons_self hneg
  · next hneg => exact iff_of_false hdigits hneg

theorem integerText_injective : Function.Injective integerText := by
  intro i j h
  have hsign : i < 0 ↔ j < 0 := by
    rw [← minus_mem_integerText_iff, h, minus_mem_integerText_iff]
  have hdigits : Nat.toDigits 10 i.natAbs = Nat.toDigits 10 j.natAbs := by
    simpa [toList_integerText, hsign] using congrArg String.toList h
  have hvalue : i.natAbs = j.natAbs := by
    rw [← decimalValue_toDigits i.natAbs, hdigits, decimalValue_toDigits]
  omega

end Number

namespace Binary64

/-- The exponent of one in units. -/
def unitPlaces : Nat := 1074

theorem unitsPerOne_eq : unitsPerOne = 2 ^ unitPlaces := by
  unfold unitsPerOne unitPlaces
  -- With the exponent itself in the goal, the powers of two would be evaluated.
  generalize 1074 = exponent
  exact Nat.pow_eq

theorem unitsPerOne_pos : 0 < unitsPerOne := by
  rw [unitsPerOne_eq]
  exact Nat.two_pow_pos unitPlaces

theorem log2_mul_two_pow {n : Nat} (hn : n ≠ 0) (e : Nat) :
    Nat.log2 (n * 2 ^ e) = Nat.log2 n + e := by
  induction e with
  | zero => simp
  | succ e ih =>
    have hdouble : n * 2 ^ (e + 1) = 2 * (n * 2 ^ e) := by ring
    rw [hdouble, Nat.log2_two_mul (Nat.mul_ne_zero hn (Nat.two_pow_pos e).ne'), ih, Nat.add_assoc]

-- ════════════════════════════════════════════════════════════════════════
-- Places and units
-- ════════════════════════════════════════════════════════════════════════

theorem unitsAt_of_lt {place : Nat} (h : place < 2 ^ 52) : unitsAt place = place :=
  if_pos h

/-- Where a significand has 53 bits, its place counts on from the place of the exponent; the next
power of two may be written with either exponent. -/
theorem unitsAt_normal (exponent : Nat) {significand : Nat} (hlow : 2 ^ 52 ≤ significand)
    (hhigh : significand ≤ 2 ^ 53) :
    unitsAt (exponent * 2 ^ 52 + significand) = significand * 2 ^ exponent := by
  have hnormal : ¬ exponent * 2 ^ 52 + significand < Nat.pow 2 52 := by
    simp only [Nat.pow_eq]
    omega
  rw [unitsAt, if_neg hnormal]
  simp only [Nat.pow_eq]
  obtain hlt | rfl := Nat.lt_or_eq_of_le hhigh
  · have hdiv : (exponent * 2 ^ 52 + significand) / 2 ^ 52 - 1 = exponent := by omega
    have hmod : 2 ^ 52 + (exponent * 2 ^ 52 + significand) % 2 ^ 52 = significand := by omega
    rw [hdiv, hmod]
  · have hdiv : (exponent * 2 ^ 52 + 2 ^ 53) / 2 ^ 52 - 1 = exponent + 1 := by omega
    have hmod : 2 ^ 52 + (exponent * 2 ^ 52 + 2 ^ 53) % 2 ^ 52 = 2 ^ 52 := by omega
    rw [hdiv, hmod]
    ring

/-- A place from 2⁵² on has an exponent and a significand of 53 bits. -/
theorem exists_normal {place : Nat} (h : 2 ^ 52 ≤ place) :
    ∃ exponent significand, place = exponent * 2 ^ 52 + significand ∧ 2 ^ 52 ≤ significand ∧
      significand < 2 ^ 53 :=
  ⟨place / 2 ^ 52 - 1, 2 ^ 52 + place % 2 ^ 52, by omega, by omega, by omega⟩

/-- The magnitudes ascend with their places. -/
theorem unitsAt_lt_succ (place : Nat) : unitsAt place < unitsAt (place + 1) := by
  obtain hlt | hle := Nat.lt_or_ge place (2 ^ 52)
  · rw [unitsAt_of_lt hlt]
    obtain hnext | hnext := Nat.lt_or_ge (place + 1) (2 ^ 52)
    · rw [unitsAt_of_lt hnext]
      exact Nat.lt_succ_self place
    · obtain rfl : place = 2 ^ 52 - 1 := by omega
      have hfirst : unitsAt (0 * 2 ^ 52 + 2 ^ 52) = 2 ^ 52 * 2 ^ 0 :=
        unitsAt_normal 0 (Nat.le_refl _) (by decide)
      exact hfirst ▸ (by decide)
  · obtain ⟨exponent, significand, rfl, hlow, hhigh⟩ := exists_normal hle
    rw [Nat.add_assoc, unitsAt_normal exponent hlow (Nat.le_of_lt hhigh),
      unitsAt_normal exponent (Nat.le_succ_of_le hlow) hhigh]
    exact Nat.mul_lt_mul_of_pos_right (Nat.lt_succ_self _) (Nat.two_pow_pos _)

-- ════════════════════════════════════════════════════════════════════════
-- The double nearest to a whole number
-- ════════════════════════════════════════════════════════════════════════

/-- A quotient is rounded down if the rest is at most half of the divisor, and up if it is at least
half of it. -/
theorem divRound_cases (num den : Nat) :
    divRound num den = num / den ∧ 2 * (num % den) ≤ den ∨
      divRound num den = num / den + 1 ∧ den ≤ 2 * (num % den) := by
  unfold divRound
  simp only [Bool.or_eq_true, decide_eq_true_eq, Bool.and_eq_true, beq_iff_eq]
  split
  · next hup => exact .inr ⟨rfl, by omega⟩
  · next hdown => exact .inl ⟨rfl, by omega⟩

/-- What is rounded is off by half a step at most. -/
theorem divRound_near (num : Nat) {den : Nat} (hden : 0 < den) :
    2 * (divRound num den * den) ≤ 2 * num + den ∧
      2 * num ≤ 2 * (divRound num den * den) + den := by
  have hdiv := Nat.div_add_mod num den
  have hmod := Nat.mod_lt num hden
  rw [Nat.mul_comm] at hdiv
  obtain ⟨hdown, hrest⟩ | ⟨hup, hrest⟩ := divRound_cases num den
  · rw [hdown]
    omega
  · rw [hup, Nat.add_one_mul (num / den)]
    omega

theorem divRound_mul_right (num den : Nat) {factor : Nat} (h : 0 < factor) :
    divRound (num * factor) (den * factor) = divRound num den := by
  unfold divRound
  simp only [Nat.mul_div_mul_right _ _ h, Nat.mul_mod_mul_right, ← Nat.mul_assoc,
    Nat.mul_lt_mul_right h, Nat.mul_right_cancel_iff h, Bool.beq_eq_decide_eq]

/-- A natural number of 53 bits and more is rounded to 53 bits. -/
theorem nearestPlace_whole {n k : Nat} (hlow : 2 ^ (52 + k) ≤ n) (hhigh : n < 2 ^ (53 + k)) :
    nearestPlace (n * unitsPerOne) 1 = (unitPlaces + k) * 2 ^ 52 + divRound n (2 ^ k) := by
  have hn : n ≠ 0 := by
    have hpos := Nat.two_pow_pos (52 + k)
    omega
  have hlog : Nat.log2 n = 52 + k :=
    (Nat.log2_eq_iff hn).2 ⟨hlow, by rwa [Nat.add_right_comm]⟩
  have hshift : Nat.log2 (n * unitsPerOne / 1) - 52 = unitPlaces + k := by
    rw [Nat.div_one, unitsPerOne_eq, log2_mul_two_pow hn, hlog]
    omega
  have hden : 2 ^ (unitPlaces + k) = 2 ^ k * unitsPerOne := by
    rw [unitsPerOne_eq, Nat.pow_add, Nat.mul_comm]
  simp only [nearestPlace, hshift, Nat.pow_eq, Nat.one_mul, hden,
    divRound_mul_right _ _ unitsPerOne_pos]

/-- The magnitude of a double is a natural number. -/
def IsWhole (x : Binary64) (n : Nat) : Prop :=
  x.units = n * unitsPerOne

theorem IsWhole.magnitude_pos {x : Binary64} {n : Nat} (h : x.IsWhole n) (hn : 0 < n) :
    0 < x.magnitude := by
  refine Nat.pos_of_ne_zero fun hzero => ?_
  rw [IsWhole, units, hzero, unitsAt_of_lt (by decide)] at h
  exact (Nat.mul_pos hn unitsPerOne_pos).ne h

/-- The double nearest to a natural number between two powers of two, from 2⁵² up, is a multiple of
the step between the doubles there, and off by half a step at most. -/
theorem exists_ofNat? (negative : Bool) {n k : Nat} (hlow : 2 ^ (52 + k) ≤ n)
    (hhigh : n < 2 ^ (53 + k)) (hk : k ≤ 970) :
    ∃ x d, ofNat? negative n = some x ∧ x.negative = negative ∧ x.IsWhole (d * 2 ^ k) ∧ 0 < d ∧
      2 * (d * 2 ^ k) ≤ 2 * n + 2 ^ k ∧ 2 * n ≤ 2 * (d * 2 ^ k) + 2 ^ k := by
  have hstep : 0 < 2 ^ k := Nat.two_pow_pos k
  have hquotient : 2 ^ 52 ≤ n / 2 ^ k ∧ n / 2 ^ k < 2 ^ 53 := by
    rw [Nat.le_div_iff_mul_le hstep, Nat.div_lt_iff_lt_mul hstep, ← Nat.pow_add, ← Nat.pow_add]
    exact ⟨hlow, hhigh⟩
  have hrounded : 2 ^ 52 ≤ divRound n (2 ^ k) ∧ divRound n (2 ^ k) ≤ 2 ^ 53 := by
    obtain ⟨heq, -⟩ | ⟨heq, -⟩ := divRound_cases n (2 ^ k) <;> omega
  have hplace := nearestPlace_whole hlow hhigh
  have hfinite : nearestPlace (n * unitsPerOne) 1 < infinityPlace := by
    simp only [hplace, infinityPlace, unitPlaces, Nat.pow_eq]
    omega
  have hsome : ofNat? negative n = some ⟨negative, _, hfinite⟩ := by
    rw [ofNat?, ofDecimal?, ofUnits?]
    exact dif_pos hfinite
  refine ⟨_, divRound n (2 ^ k), hsome, rfl, ?_, by omega, divRound_near n hstep⟩
  simp only [IsWhole, units, hplace]
  rw [unitsAt_normal _ hrounded.1 hrounded.2, unitsPerOne_eq, Nat.pow_add, Nat.mul_comm (2 ^ _),
    Nat.mul_assoc]

-- ════════════════════════════════════════════════════════════════════════
-- Shortest decimals of whole doubles
-- ════════════════════════════════════════════════════════════════════════

theorem powerOfTen_pos (n : Nat) : 0 < Nat.pow 10 n :=
  Nat.pow_pos (by decide)

theorem scaled_lt_scaled {a b : Nat} (h : a < b) : scaled a < scaled b :=
  Nat.mul_lt_mul_of_pos_right h (powerOfTen_pos _)

/-- Every magnitude but zero rounds to itself. -/
theorem roundsTo_exact {place : Nat} (hplace : 0 < place) :
    roundsTo place (scaled (2 * unitsAt place)) = true := by
  obtain ⟨before, rfl⟩ := Nat.exists_eq_add_one_of_ne_zero hplace.ne'
  have hbefore := unitsAt_lt_succ before
  have hbehind := unitsAt_lt_succ (before + 1)
  have hlow : scaled (unitsAt (before + 1 - 1) + unitsAt (before + 1)) <
      scaled (2 * unitsAt (before + 1)) := by
    rw [Nat.add_sub_cancel]
    exact scaled_lt_scaled (by omega)
  have hhigh : scaled (2 * unitsAt (before + 1)) <
      scaled (unitsAt (before + 1) + unitsAt (before + 1 + 1)) := scaled_lt_scaled (by omega)
  simp only [roundsTo]
  split
  · exact Bool.and_eq_true_iff.2 ⟨decide_eq_true hlow.le, decide_eq_true hhigh.le⟩
  · exact Bool.and_eq_true_iff.2 ⟨decide_eq_true hlow, decide_eq_true hhigh⟩

/-- Zero rounds to zero alone. -/
theorem pos_of_roundsTo {place point : Nat} (hplace : 0 < place) (h : roundsTo place point = true) :
    0 < point := by
  have hlow : scaled 0 < scaled (unitsAt (place - 1) + unitsAt place) := by
    refine scaled_lt_scaled ?_
    have hbefore := unitsAt_lt_succ (place - 1)
    rw [Nat.sub_add_cancel hplace] at hbefore
    omega
  rw [scaled, Nat.zero_mul] at hlow
  unfold roundsTo at h
  split at h
  all_goals
    simp only [Bool.and_eq_true, decide_eq_true_eq] at h
    omega

/-- What is taken from a grid rounds to the magnitude. -/
theorem roundsTo_of_nearestOnGrid {tie : Tie} {place level digits : Nat}
    (h : nearestOnGrid tie place level = some digits) :
    roundsTo place (digits * gridStep level) = true := by
  unfold nearestOnGrid at h
  simp only at h
  split at h
  · cases h
  · next hbelow _ =>
    cases h
    exact hbelow
  · next habove =>
    cases h
    exact habove
  · next hbelow habove =>
    split at h
    · cases h
      exact hbelow
    split at h
    · cases h
      exact habove
    · cases tie with
      | upper =>
        cases h
        exact habove
      | even =>
        simp only at h
        split at h
        · cases h
          exact hbelow
        · cases h
          exact habove

/-- The grid of whole numbers has a whole magnitude among its points. -/
theorem nearestOnGrid_whole (tie : Tie) {place n : Nat} (hplace : 0 < place)
    (h : unitsAt place = n * unitsPerOne) :
    nearestOnGrid tie place finestExponent = some n := by
  have hexact : scaled (2 * unitsAt place) = n * gridStep finestExponent := by
    simp only [scaled, gridStep, h]
    ring
  have hstep : 0 < gridStep finestExponent :=
    Nat.mul_pos (powerOfTen_pos _) (Nat.mul_pos (by decide) unitsPerOne_pos)
  have hrounds := roundsTo_exact hplace
  rw [hexact] at hrounds
  unfold nearestOnGrid
  simp only [hexact, Nat.mul_div_cancel _ hstep, Nat.mul_mod_left, hrounds]
  split
  · next heq _ => cases heq
  · rfl
  · next heq _ => cases heq
  · rw [if_pos (by omega)]

/-- From the grid of whole numbers on, the coarsest grid with a point that rounds to a whole
magnitude consists of whole numbers. -/
theorem coarsest_whole (tie : Tie) {place n : Nat} (hplace : 0 < place)
    (h : unitsAt place = n * unitsPerOne) (above : Nat) :
    ∃ digits zeros : Nat, coarsest tie place (finestExponent + above) = ⟨digits, zeros⟩ ∧
      0 < digits := by
  have hpos : ∀ {level digits}, nearestOnGrid tie place level = some digits → 0 < digits := by
    intro level digits hgrid
    exact Nat.pos_of_mul_pos_right (pos_of_roundsTo hplace (roundsTo_of_nearestOnGrid hgrid))
  induction above with
  | zero =>
    have hgrid := nearestOnGrid_whole tie hplace h
    refine ⟨n, 0, ?_, hpos hgrid⟩
    change coarsest tie place (323 + 1) = _
    change nearestOnGrid tie place (323 + 1) = _ at hgrid
    simp only [coarsest, hgrid]
    rfl
  | succ above ih =>
    rw [← Nat.add_assoc, coarsest]
    split
    · next digits hgrid =>
      refine ⟨digits, above + 1, ?_, hpos hgrid⟩
      simp only [Decimal.mk.injEq, true_and]
      omega
    · exact ih

/-- The shortest decimal of a whole double is a whole number. -/
theorem shortest_whole (tie : Tie) {x : Binary64} {n : Nat} (hn : 0 < n) (h : x.IsWhole n) :
    ∃ digits zeros : Nat, x.shortest tie = ⟨digits, zeros⟩ ∧ 0 < digits := by
  have hunits : unitsAt x.magnitude = n * unitsPerOne := h
  have hlevel : finestExponent ≤ coarseLevel x.magnitude := by
    rw [coarseLevel, hunits, unitsPerOne_eq, log2_mul_two_pow hn.ne']
    simp only [finestExponent, unitPlaces]
    omega
  obtain ⟨above, hlevel⟩ := Nat.exists_eq_add_of_le hlevel
  rw [shortest, hlevel]
  exact coarsest_whole tie (h.magnitude_pos hn) hunits above

/-- The whole number that the shortest decimal of a whole double is. -/
def shortestWhole (x : Binary64) : Int :=
  let d := x.shortest .upper
  (if x.negative then -1 else 1) * (d.digits * 10 ^ d.exponent.toNat : Nat)

end Binary64

/-- A whole double interpolates as a whole number, without a point. -/
theorem Number.display_whole {x : Binary64} {n : Nat} (hn : 0 < n) (h : x.IsWhole n) :
    (Number.float x).display = integerText x.shortestWhole := by
  obtain ⟨digits, zeros, hshortest, hdigits⟩ := Binary64.shortest_whole .upper hn h
  have hzero : x.isZero = false := by simpa [Binary64.isZero] using (h.magnitude_pos hn).ne'
  have hlayout : (⟨digits, zeros⟩ : Decimal).layout displayStyle =
      Nat.toDigits 10 (digits * 10 ^ zeros) := by
    rw [toDigits_mul_pow hdigits]
    exact List.append_nil _
  have htext : (Number.float x).display.toList =
      (if x.negative then ['-'] else []) ++ Nat.toDigits 10 (digits * 10 ^ zeros) := by
    rw [← hlayout, ← hshortest]
    simp [display, Binary64.text, hzero, displayStyle]
  have hpos : 0 < digits * 10 ^ zeros := Nat.mul_pos hdigits (Nat.pow_pos (by decide))
  have hwhole : x.shortestWhole =
      (if x.negative then -1 else 1) * ((digits * 10 ^ zeros : Nat) : Int) := by
    rw [Binary64.shortestWhole, hshortest, Int.toNat_natCast]
  generalize digits * 10 ^ zeros = value at htext hpos hwhole
  have hsign : x.shortestWhole < 0 ↔ x.negative = true := by
    rw [hwhole]
    split <;> simp_all
  have habs : x.shortestWhole.natAbs = value := by
    rw [hwhole]
    split <;> simp
  refine String.toList_inj.1 ?_
  simp only [htext, toList_integerText, hsign, habs]

end TextTemplate
