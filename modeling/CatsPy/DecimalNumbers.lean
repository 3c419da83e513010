import Mathlib.Data.Int.Log
import Mathlib.Data.Rat.Floor
import Mathlib.Tactic.Ring

/-!
# Decimal numbers and their texts

A finite decimal is a sign, a coefficient and an exponent; many of them have one
value. The text follows the representation, not the value: it is positional as
long as the exponent is not positive and the leading digit stands at the sixth
place after the point or before it, and scientific otherwise.
-/
namespace DecimalArithmetic

structure Decimal where
  negative : Bool := false
  coefficient : ℕ
  exponent : ℤ
  deriving DecidableEq

/-- Digits with an optional fraction, denoting a value. -/
def PlainNotation (text : String) (value : ℚ) : Prop :=
  ∃ whole fraction : List Char, whole ≠ [] ∧ (∀ c ∈ whole ++ fraction, c.isDigit = true) ∧
    text.toList = whole ++ (if fraction = [] then [] else '.' :: fraction) ∧
    value = Nat.ofDigitChars 10 (whole ++ fraction) 0 / 10 ^ fraction.length

namespace Decimal

def magnitude (d : Decimal) : ℚ := d.coefficient * 10 ^ d.exponent

def value (d : Decimal) : ℚ := if d.negative then -d.magnitude else d.magnitude

/-- The digits of the coefficient; zero has one. -/
def digits (d : Decimal) : List Char := Nat.toDigits 10 d.coefficient

/-- The place of the first digit. -/
def adjusted (d : Decimal) : ℤ := d.exponent + d.digits.length - 1

section Magnitudes

theorem magnitude_nonneg (d : Decimal) : 0 ≤ d.magnitude :=
  mul_nonneg (Nat.cast_nonneg _) (zpow_nonneg (by norm_num) _)

theorem magnitude_pos_iff (d : Decimal) : 0 < d.magnitude ↔ d.coefficient ≠ 0 := by
  rw [magnitude, mul_pos_iff_of_pos_right (zpow_pos (by norm_num) _), Nat.cast_pos, Nat.pos_iff_ne_zero]

theorem value_of_positive {d : Decimal} (positive : d.negative = false) : d.value = d.magnitude := by
  simp [value, positive]

theorem positive_of_value {d : Decimal} (positive : 0 < d.value) :
    d.negative = false ∧ d.coefficient ≠ 0 := by
  cases sign : d.negative with
  | true =>
      rw [value, if_pos sign] at positive
      linarith [d.magnitude_nonneg]
  | false =>
      rw [value_of_positive sign] at positive
      exact ⟨rfl, d.magnitude_pos_iff.mp positive⟩

/-- The first digit of a number that is not zero stands at its logarithm. -/
theorem le_adjusted_iff {d : Decimal} (nonzero : d.coefficient ≠ 0) (j : ℤ) :
    j ≤ d.adjusted ↔ (10 : ℚ) ^ j ≤ d.magnitude := by
  have unit : (0 : ℚ) < 10 ^ d.exponent := zpow_pos (by norm_num) _
  have counted : (10 : ℚ) ^ j ≤ d.magnitude ↔ (10 : ℚ) ^ (j - d.exponent) ≤ d.coefficient := by
    rw [magnitude, zpow_sub₀ (by norm_num), div_le_iff₀ unit]
  rw [counted, adjusted]
  -- A power below one is reached by every coefficient, one above by its length.
  rcases lt_or_ge 0 (j - d.exponent) with later | early
  · obtain ⟨k, place⟩ := Int.eq_ofNat_of_zero_le later.le
    have power : (10 : ℚ) ^ (j - d.exponent) ≤ d.coefficient ↔ 10 ^ k ≤ d.coefficient := by
      rw [place, zpow_natCast]
      exact_mod_cast Iff.rfl
    have longer : 10 ^ k ≤ d.coefficient ↔ k < d.digits.length := by
      rw [← not_lt, ← Nat.length_toDigits_le_iff (by norm_num) (by omega), not_le, digits]
    rw [power, longer]
    omega
  · have reached : (10 : ℚ) ^ (j - d.exponent) ≤ d.coefficient := by
      have one : (1 : ℚ) ≤ d.coefficient := by exact_mod_cast Nat.one_le_iff_ne_zero.mpr nonzero
      exact (zpow_le_one_of_nonpos₀ (by norm_num) early).trans one
    have present : 0 < d.digits.length := Nat.length_toDigits_pos
    exact iff_of_true (by omega) reached

end Magnitudes

section Texts

/-- The mantissa with the point after so many digits. -/
def mantissa (d : Decimal) (dotPlace : ℤ) : List Char :=
  if dotPlace ≤ 0 then ['0', '.'] ++ List.replicate (-dotPlace).toNat '0' ++ d.digits
  else if d.digits.length ≤ dotPlace then
    d.digits ++ List.replicate (dotPlace - d.digits.length).toNat '0'
  else d.digits.take dotPlace.toNat ++ '.' :: d.digits.drop dotPlace.toNat

/-- `E+7`, `E-7`, or nothing. -/
def exponentText (exponent : ℤ) : List Char :=
  if exponent = 0 then [] else 'E' :: (if exponent < 0 then '-' else '+') :: Nat.toDigits 10 exponent.natAbs

/-- `str(d)`. -/
def str (d : Decimal) : String :=
  let leftDigits := d.exponent + d.digits.length
  let dotPlace := if d.exponent ≤ 0 ∧ -6 < leftDigits then leftDigits else 1
  String.ofList ((if d.negative then ['-'] else []) ++ d.mantissa dotPlace ++
    exponentText (leftDigits - dotPlace))

/-- The number is written without an exponent. -/
def Positional (d : Decimal) : Prop := d.exponent ≤ 0 ∧ -6 ≤ d.adjusted

theorem digits_isDigit (d : Decimal) : ∀ c ∈ d.digits, c.isDigit = true :=
  fun _ listed => Nat.isDigit_of_mem_toDigits (by norm_num) (by norm_num) listed

theorem digits_ne_nil (d : Decimal) : d.digits ≠ [] := Nat.toDigits_ne_nil

theorem ofDigitChars_digits (d : Decimal) : Nat.ofDigitChars 10 d.digits 0 = d.coefficient :=
  Nat.ofDigitChars_ten_toDigits

theorem ofDigitChars_zeros_digits (d : Decimal) (zeros : ℕ) :
    Nat.ofDigitChars 10 (List.replicate zeros '0' ++ d.digits) 0 = d.coefficient := by
  rw [Nat.ofDigitChars_append, Nat.ofDigitChars_replicate_zero, mul_zero, ofDigitChars_digits]

theorem zeros_digits_isDigit (d : Decimal) (zeros : ℕ) :
    ∀ c ∈ List.replicate zeros '0' ++ d.digits, c.isDigit = true := by
  intro c listed
  rcases List.mem_append.mp listed with zero | digit
  · rw [List.eq_of_mem_replicate zero]
    rfl
  · exact d.digits_isDigit c digit

/-- With the point as far from the end as the exponent says, the mantissa denotes
the number. -/
theorem mantissa_plain {d : Decimal} {places : ℕ} (fraction : d.exponent = -places) :
    PlainNotation (String.ofList (d.mantissa (d.exponent + d.digits.length))) d.magnitude := by
  have denotes : d.magnitude = d.coefficient / 10 ^ places := by
    rw [magnitude, fraction, zpow_neg, zpow_natCast, div_eq_mul_inv]
  have present : 0 < d.digits.length := Nat.length_toDigits_pos
  rw [denotes, mantissa, fraction]
  split_ifs with before after
  · -- Zeros stand between the point and the first digit.
    obtain ⟨zeros, gap⟩ := Nat.exists_eq_add_of_le (show d.digits.length ≤ places by omega)
    have count : (-(-(places : ℤ) + d.digits.length)).toNat = zeros := by omega
    refine ⟨['0'], List.replicate zeros '0' ++ d.digits, by simp, ?_, ?_, ?_⟩
    · exact d.zeros_digits_isDigit (zeros + 1)
    · rw [String.toList_ofList, count, if_neg (by simp [d.digits_ne_nil])]
      simp
    · have read := d.ofDigitChars_zeros_digits (zeros + 1)
      rw [List.replicate_succ, List.cons_append] at read
      have width : (List.replicate zeros '0' ++ d.digits).length = places := by simp [gap, add_comm]
      rw [width, List.singleton_append, read]
  · -- Nothing follows the point.
    obtain rfl : places = 0 := by omega
    refine ⟨d.digits, [], d.digits_ne_nil, by simpa using d.digits_isDigit, ?_, ?_⟩
    · rw [String.toList_ofList]
      simp
    · simp [ofDigitChars_digits]
  · -- The point stands among the digits.
    obtain ⟨point, place⟩ := Int.eq_ofNat_of_zero_le (not_le.mp before).le
    have split := List.take_append_drop point d.digits
    have width : (d.digits.drop point).length = places := by
      rw [List.length_drop]
      omega
    rw [place, Int.toNat_natCast]
    refine ⟨d.digits.take point, d.digits.drop point, ?_, ?_, ?_, ?_⟩
    · rw [ne_eq, List.take_eq_nil_iff, not_or]
      exact ⟨by omega, d.digits_ne_nil⟩
    · rw [split]
      exact d.digits_isDigit
    · rw [String.toList_ofList, if_neg]
      rw [List.drop_eq_nil_iff]
      omega
    · rw [split, width, ofDigitChars_digits]

/-- A positive number's text is plain, and then denotes the number, exactly if it
is written without an exponent. -/
theorem str_plain_iff {d : Decimal} (positive : d.negative = false) :
    PlainNotation d.str d.value ↔ d.Positional := by
  have present : 0 < d.digits.length := Nat.length_toDigits_pos
  constructor
  · rintro ⟨whole, fraction, -, digits, text, -⟩
    by_contra scientific
    -- Otherwise the text has the letter of the exponent in it.
    have guard : ¬ (d.exponent ≤ 0 ∧ -6 < d.exponent + d.digits.length) := by
      intro positional
      exact scientific ⟨positional.1, by rw [adjusted]; omega⟩
    have shifted : d.exponent + d.digits.length - 1 ≠ 0 := by omega
    have letter : 'E' ∈ d.str.toList := by
      rw [str, if_neg guard, String.toList_ofList, exponentText, if_neg shifted]
      simp
    rw [text] at letter
    have other : ∀ c ∈ whole ++ (if fraction = [] then [] else '.' :: fraction), c.isDigit = true ∨ c = '.' := by
      intro c listed
      split_ifs at listed with none
      · exact .inl (digits c (by simpa [none] using listed))
      · simp only [List.mem_append, List.mem_cons] at listed
        rcases listed with inside | point | after
        · exact .inl (digits c (List.mem_append_left _ inside))
        · exact .inr point
        · exact .inl (digits c (List.mem_append_right _ after))
    rcases other 'E' letter with digit | point
    · exact absurd digit (by decide)
    · exact absurd point (by decide)
  · rintro ⟨whole, small⟩
    obtain ⟨places, fraction⟩ := Int.eq_ofNat_of_zero_le (neg_nonneg.mpr whole)
    have guard : d.exponent ≤ 0 ∧ -6 < d.exponent + d.digits.length := by
      rw [adjusted] at small
      exact ⟨whole, by omega⟩
    have written : d.str = String.ofList (d.mantissa (d.exponent + d.digits.length)) := by
      simp [str, guard, positive, exponentText]
    rw [written, value_of_positive positive]
    exact mantissa_plain (neg_eq_iff_eq_neg.mp fraction)

end Texts

end Decimal

end DecimalArithmetic
