import TextTemplate.Proofs.Number.Whole
import TextTemplate.Proofs.Token.Exchange
import TextTemplate.Value.Reader

/-!
# Whole numbers in data

Data keeps every whole number of 64 bits, with or without a sign, as it is written in decimals.

## Main definitions

- `Value.EndsNumber` — what comes behind a number

## Main statements

- `Value.readNumber?_integerText` — a whole number of 64 bits is read from its text
- `Value.read?_alone` — data with one member is read
-/

namespace TextTemplate

open Text

namespace Number

theorem le_foldl_digits (significand : Nat) (digits : List Char) :
    significand ≤ digits.foldl (fun n c => 10 * n + digitValue c) significand := by
  induction digits generalizing significand with
  | nil => exact Nat.le_refl _
  | cons c cs ih =>
    have hnext : significand ≤ 10 * significand + digitValue c := by omega
    exact hnext.trans (ih _)

/-- Digits that fit into 64 bits are gathered to the last one. -/
theorem gather_of_lt {significand : Nat} {digits : List Char}
    (h : digits.foldl (fun n c => 10 * n + digitValue c) significand < 2 ^ 64) :
    gather significand digits =
      (digits.foldl (fun n c => 10 * n + digitValue c) significand, []) := by
  induction digits generalizing significand with
  | nil => rfl
  | cons c cs ih =>
    have hnext : 10 * significand + digitValue c < Nat.pow 2 64 :=
      Nat.lt_of_le_of_lt (le_foldl_digits _ cs) h
    simp only [gather, if_pos hnext]
    exact ih h

theorem gather_toDigits {n : Nat} (h : n < 2 ^ 64) : gather 0 (Nat.toDigits 10 n) = (n, []) := by
  have hvalue := decimalValue_toDigits n
  rw [decimalValue] at hvalue
  rw [gather_of_lt (by rwa [hvalue]), hvalue]

theorem ofParts?_whole {n : Nat} (h : n < 2 ^ 64) :
    ofParts? false (Nat.toDigits 10 n) none none = some (.integer n) := by
  simp only [ofParts?, gather_toDigits h]
  rfl

/-- Behind a minus sign 63 bits are kept, and one number more. -/
theorem ofParts?_negative {n : Nat} (hpos : 0 < n) (h : n ≤ 2 ^ 63) :
    ofParts? true (Nat.toDigits 10 n) none none = some (.integer (-n)) := by
  have hsmall : n < 2 ^ 64 := by omega
  have hkept : (n == 0 || decide (Nat.pow 2 63 < n)) = false := by
    simp only [Bool.or_eq_false_iff, beq_eq_false_iff_ne, decide_eq_false_iff_not, Nat.pow_eq]
    omega
  simp only [ofParts?, gather_toDigits hsmall, hkept]
  rfl

end Number

namespace Value

/-- What comes behind a number with neither point nor exponent. -/
def EndsNumber (rest : List Char) : Prop :=
  ∀ c ∈ rest.head?, c.isDigit = false ∧ c ∉ ['.', 'e', 'E']

theorem readExponent_of_endsNumber {rest : List Char} (h : EndsNumber rest) :
    readExponent rest = (none, rest) := by
  cases rest with
  | nil => rfl
  | cons c cs =>
    have hc := (h c rfl).2
    simp only [List.mem_cons, List.not_mem_nil, or_false, not_or] at hc
    simp [readExponent, hc.2.1, hc.2.2]

/-- The sign of a number, its digits, and nothing else of it. -/
theorem readNumber?_digits (negative : Bool) {digits rest : List Char} (hne : digits ≠ [])
    (hdigits : ∀ c ∈ digits, c.isDigit = true) (hrest : EndsNumber rest) :
    readNumber? ((if negative then ['-'] else []) ++ (digits ++ rest)) =
      (Number.ofParts? negative digits none none).map fun n => (n, rest) := by
  have hall : digits.takeWhile Char.isDigit = digits := List.takeWhile_eq_self_iff.2 hdigits
  obtain ⟨htake, hdrop⟩ := takeWhile_before digits fun c hc => (hrest c hc).1
  rw [hall] at htake hdrop
  have hempty : digits.isEmpty = false := by simpa using hne
  have hpoint : ∀ more, rest ≠ '.' :: more := by
    rintro more rfl
    exact absurd List.mem_cons_self (hrest '.' rfl).2
  have hminus : negative = false → ∀ more, digits ++ rest ≠ '-' :: more := by
    rintro - more heq
    obtain ⟨c, cs, rfl⟩ := List.exists_cons_of_ne_nil hne
    cases heq
    exact absurd (hdigits '-' List.mem_cons_self) (by decide)
  unfold readNumber?
  split
  next negative' unsigned hsign =>
  obtain ⟨rfl, rfl⟩ : negative' = negative ∧ unsigned = digits ++ rest := by
    cases negative with
    | true =>
      cases hsign
      exact ⟨rfl, rfl⟩
    | false =>
      split at hsign
      · next heq => exact absurd heq (hminus rfl _)
      · cases hsign
        exact ⟨rfl, rfl⟩
  simp only [htake, hdrop, hempty, readExponent_of_endsNumber hrest, Bool.false_eq_true, if_false]

/-- A whole number of 64 bits is read from its text as it is. -/
theorem readNumber?_integerText {i : Int} (hlow : -2 ^ 63 ≤ i) (hhigh : i < 2 ^ 64)
    {rest : List Char} (hrest : EndsNumber rest) :
    readNumber? ((Number.integerText i).toList ++ rest) = some (.integer i, rest) := by
  have hdigits : ∀ c ∈ Nat.toDigits 10 i.natAbs, c.isDigit = true := fun c hc =>
    Nat.isDigit_of_mem_toDigits (by decide) (by decide) hc
  have hread := readNumber?_digits (decide (i < 0)) Nat.toDigits_ne_nil hdigits hrest
  simp only [decide_eq_true_eq] at hread
  rw [Number.toList_integerText, List.append_assoc, hread]
  by_cases hneg : i < 0
  · rw [decide_eq_true hneg, Number.ofParts?_negative (by omega) (by omega)]
    simp only [Option.map_some, Option.some.injEq, Prod.mk.injEq, Number.integer.injEq, and_true]
    omega
  · rw [decide_eq_false hneg, Number.ofParts?_whole (by omega)]
    simp only [Option.map_some, Option.some.injEq, Prod.mk.injEq, Number.integer.injEq, and_true]
    omega

/-- A value that begins with a digit or a minus sign is a number. -/
theorem readValue?_number {c : Char} (hc : c.isDigit = true ∨ c = '-') (cs : List Char)
    (fuel : Nat) :
    readValue? (fuel + 1) (c :: cs) =
      (readNumber? (c :: cs)).map fun (n, rest) => (number n, rest) := by
  have hother : c ∉ [' ', '\t', '\n', '\r', '"', '[', '\x7b', 'n', 't', 'f'] :=
    notMem_of_isDigit_or_minus hc (by decide)
  simp only [List.mem_cons, not_or] at hother
  obtain ⟨hspace, htab, hnewline, hreturn, hquote, hbracket, hbrace, hn, ht, hf, -⟩ := hother
  have hskip : skipBlanks (c :: cs) = c :: cs := by
    simp [skipBlanks, hspace, htab, hnewline, hreturn]
  rw [readValue?, hskip]
  split
  case h_7 => rfl
  all_goals
    next heq =>
      cases heq
      contradiction

theorem readValue?_integerText {i : Int} (hlow : -2 ^ 63 ≤ i) (hhigh : i < 2 ^ 64)
    {rest : List Char} (hrest : EndsNumber rest) (fuel : Nat) :
    readValue? (fuel + 1) ((Number.integerText i).toList ++ rest) =
      some (number (.integer i), rest) := by
  have hread := readNumber?_integerText hlow hhigh hrest
  obtain ⟨c, cs, hcons, hc⟩ := Number.exists_toList_integerText i
  rw [hcons, List.cons_append] at hread ⊢
  rw [readValue?_number hc, hread]
  rfl

/-- Data with one member is read from its key and the text of a number. -/
theorem read?_alone {i : Int} (hlow : -2 ^ 63 ≤ i) (hhigh : i < 2 ^ 64) :
    read? ("\x7b\"x\":" ++ Number.integerText i ++ "\x7d") =
      some (keyed [("x", number (.integer i))]) := by
  have hends : EndsNumber ['\x7d'] := by
    rintro c ⟨⟩
    decide
  have hmembers : ∀ fuel, readMembers? (fuel + 2) []
      ('"' :: 'x' :: '"' :: ':' :: ((Number.integerText i).toList ++ ['\x7d'])) =
        some ([("x", number (.integer i))], []) := by
    intro fuel
    have hvalue := readValue?_integerText hlow hhigh hends fuel
    have hkey : ∀ rest, readText? ('x' :: '"' :: rest) = some ("x", rest) := fun _ => rfl
    have hquote : ∀ rest, skipBlanks ('"' :: rest) = '"' :: rest := fun _ => rfl
    have hcolon : ∀ rest, skipBlanks (':' :: rest) = ':' :: rest := fun _ => rfl
    simp only [readMembers?, hquote, hkey, hcolon, Option.bind_some, hvalue]
    rfl
  have hlist : ("\x7b\"x\":" ++ Number.integerText i ++ "\x7d").toList =
      '\x7b' :: '"' :: 'x' :: '"' :: ':' :: ((Number.integerText i).toList ++ ['\x7d']) := by
    simp
  have hdata : ∀ fuel, readValue? (fuel + 3)
      ('\x7b' :: '"' :: 'x' :: '"' :: ':' :: ((Number.integerText i).toList ++ ['\x7d'])) =
        some (keyed [("x", number (.integer i))], []) := by
    intro fuel
    have hbrace : ∀ rest, skipBlanks ('\x7b' :: rest) = '\x7b' :: rest := fun _ => rfl
    have hquote : ∀ rest, skipBlanks ('"' :: rest) = '"' :: rest := fun _ => rfl
    simp only [readValue?, hbrace, hquote]
    change Option.map _ (readMembers? (fuel + 2) [] _) = _
    rw [hmembers]
    rfl
  rw [read?, hlist]
  simp only [List.length_cons, Nat.mul_add, Nat.add_assoc]
  rw [hdata]
  rfl

end Value

end TextTemplate
