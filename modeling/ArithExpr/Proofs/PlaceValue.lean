import Mathlib.Algebra.BigOperators.Fin
import Mathlib.Algebra.BigOperators.Field
import Mathlib.Data.Rat.Lemmas
import Mathlib.Tactic.Ring
import ArithExpr.Decimal.Datum
import ArithExpr.Proofs.Blame
import ArithExpr.Proofs.Literals

/-!
# What a literal denotes

The digits of a literal, of whatever scripts, count by their places: those before the point by the
powers of ten from the last one on, those behind the point by the powers of a tenth from the first
one on. The reader of literals does not go by places. It reads all digits as one natural number and
divides by a power of ten, so the two are shown to be the same.

* `Decimal.WrittenAs` — a text with its digits before the point and its digits behind it.
* `Decimal.placeValue` — the sum over all places.
* `Decimal.natural_append`, `Decimal.natural_eq_sum` — digits as a natural number, in two parts and
  digit by digit.
* `Decimal.value_eq_placeValue` — a literal has the value of its places.
* `Datum.decimalValue_text` — which texts have a value, which value, and what becomes of the others.
-/

namespace ArithExpr

namespace Decimal

/-! ### Taking a literal apart -/

/-- The text is a run of digits, or it is two of them with a point between. In the first case there
are no digits behind a point. -/
inductive WrittenAs : (text integral fractional : List Char) → Prop where
  | whole {cs : List Char} (digits : CharClass.digit.IsRun cs) : WrittenAs cs cs []
  | fraction {before behind : List Char} (digits : CharClass.digit.IsRun before)
      (fractional : CharClass.digit.IsRun behind) :
      WrittenAs (before ++ '.' :: behind) before behind

/-- The values of digits before a point and of digits behind it. -/
def ofDigits (integral fractional : List Char) : Decimal :=
  ⟨integral.map digitValue, fractional.map digitValue⟩

/-- **A written literal is taken apart** as it is written. -/
theorem WrittenAs.ofChars? {cs ds es : List Char} (h : WrittenAs cs ds es) :
    ofChars? cs = some (ofDigits ds es) := by
  cases h with
  | whole digits => rw [ofChars?_run digits, run?_eq_map digits]; rfl
  | fraction digits fractional =>
    rw [ofChars?_fraction digits, run?_eq_map digits, run?_eq_map fractional]
    rfl

theorem exists_writtenAs {cs : List Char} {d : Decimal} (h : ofChars? cs = some d) :
    ∃ ds es, WrittenAs cs ds es := by
  cases (written_of_ofChars? h).1 with
  | whole digits => exact ⟨_, _, .whole digits⟩
  | fraction digits fractional => exact ⟨_, _, .fraction digits fractional⟩

theorem digitCount_ofDigits (ds es : List Char) :
    (ofDigits ds es).digitCount = ds.length + es.length := by
  rw [digitCount, ofDigits, List.length_map, List.length_map]

/-! ### Digits as a natural number -/

theorem foldl_natural (n : Nat) (ds : List Nat) :
    ds.foldl (fun n d => 10 * n + d) n = n * 10 ^ ds.length + natural ds := by
  unfold natural
  -- the digits already read are in the accumulator, so the induction is for any of them
  induction ds generalizing n with
  | nil => simp
  | cons d ds ih =>
    rw [List.foldl_cons, List.foldl_cons, ih, ih (10 * 0 + d), List.length_cons]
    ring

theorem natural_cons (d : Nat) (ds : List Nat) :
    natural (d :: ds) = d * 10 ^ ds.length + natural ds := by
  rw [natural, List.foldl_cons, foldl_natural, Nat.mul_zero, Nat.zero_add]

/-- **Digits in two parts**: the first ones are moved up by as many places as there are others. -/
theorem natural_append (ds es : List Nat) :
    natural (ds ++ es) = natural ds * 10 ^ es.length + natural es := by
  rw [natural, List.foldl_append, foldl_natural]
  rfl

/-- **Digit by digit**: the places count from the last one on. -/
theorem natural_eq_sum (ds : List Nat) :
    natural ds = ∑ i : Fin ds.length, ds[i] * 10 ^ (ds.length - 1 - i) := by
  induction ds with
  | nil => rfl
  | cons d ds ih =>
    rw [natural_cons, ih]
    change _ = ∑ i : Fin (ds.length + 1), _
    rw [Fin.sum_univ_succ]
    congr 1
    refine Finset.sum_congr rfl fun i _ => ?_
    -- the place of a digit is the same with one more in front
    have hplace : ds.length - 1 - i = (d :: ds).length - 1 - (i + 1) := by
      rw [List.length_cons]
      omega
    simp [hplace]

/-! ### The value of places -/

/-- The sum of the values of all digits, each times the power of ten that its place stands for. -/
def placeValue (decimal : Decimal) : Rat :=
  ∑ i : Fin decimal.integral.length,
      (decimal.integral[i] : Rat) * 10 ^ (decimal.integral.length - 1 - i.val) +
    ∑ j : Fin decimal.fractional.length, (decimal.fractional[j] : Rat) / 10 ^ (j.val + 1)

/-- Behind the point, digits as a natural number are divided by the power of ten of them all. -/
theorem natural_div (es : List Nat) :
    (natural es : Rat) / 10 ^ es.length =
      ∑ j : Fin es.length, (es[j] : Rat) / 10 ^ (j.val + 1) := by
  rw [natural_eq_sum, Nat.cast_sum, Finset.sum_div]
  refine Finset.sum_congr rfl fun j _ => ?_
  have hplaces : es.length - 1 - j + (j + 1) = es.length := by
    have := j.isLt
    omega
  -- cross-multiplied, both sides are the digit times the power of ten of all digits
  rw [div_eq_div_iff (by positivity) (by positivity)]
  push_cast
  rw [mul_assoc, ← pow_add, hplaces]

/-- **A literal has the value of its places.** -/
theorem value_eq_placeValue (decimal : Decimal) : decimal.value = decimal.placeValue := by
  obtain ⟨ds, es⟩ := decimal
  have hpow : (10 : Rat) ^ es.length ≠ 0 := by positivity
  calc value ⟨ds, es⟩
      = (natural (ds ++ es) : Rat) / 10 ^ es.length := by
        -- the reader takes the digits of both parts as one number
        rw [value, Rat.mkRat_eq_div, Nat.pow_eq]
        push_cast
        rfl
    _ = natural ds + natural es / 10 ^ es.length := by
        -- the power by which the first part was moved up is the one that is divided by
        rw [natural_append]
        push_cast
        rw [add_div, mul_div_cancel_right₀ _ hpow]
    _ = placeValue ⟨ds, es⟩ := by
        rw [natural_div, natural_eq_sum ds, placeValue]
        push_cast
        rfl

theorem den_value_dvd (decimal : Decimal) : decimal.value.den ∣ 10 ^ decimal.fractional.length := by
  have h := Rat.den_dvd (natural (decimal.integral ++ decimal.fractional))
    (Nat.pow 10 decimal.fractional.length)
  exact Int.natCast_dvd_natCast.1 h

end Decimal

/-! ### What becomes of a text -/

open Decimal

/-- A text that is written of digits is refused only if they are too many. -/
theorem decimalValue_of_writtenAs {text : String} {ds es : List Char}
    (h : WrittenAs text.toList ds es) :
    decimalValue text =
      if digitLimit < ds.length + es.length then .error .tooLong
      else .ok (ofDigits ds es).value := by
  rw [decimalValue, h.ofChars?]
  dsimp only
  rw [digitCount_ofDigits]

theorem exists_decimalValue_iff {text : String} :
    (∃ value, decimalValue text = .ok value) ↔
      ∃ ds es, WrittenAs text.toList ds es ∧ ds.length + es.length ≤ digitLimit := by
  constructor
  · -- a value is only given to what is written as a literal, and not beyond the limit
    rintro ⟨value, hvalue⟩
    obtain ⟨hwritten, -⟩ := decimalValue_eq_ok hvalue
    obtain ⟨d, hd⟩ := hwritten.exists_ofChars?
    obtain ⟨ds, es, h⟩ := exists_writtenAs hd
    refine ⟨ds, es, h, ?_⟩
    by_contra hlt
    -- beyond the limit the value would be an error
    rw [decimalValue_of_writtenAs h, if_pos (Nat.lt_of_not_le hlt)] at hvalue
    cases hvalue
  · rintro ⟨ds, es, h, hle⟩
    exact ⟨_, by rw [decimalValue_of_writtenAs h, if_neg (Nat.not_lt_of_le hle)]⟩

namespace Datum

theorem decimalValue_text_eq_ok {text : String} {location : Option Location} {value : Rat} :
    (Datum.text text).decimalValue location = .ok value ↔
      ArithExpr.decimalValue text = .ok value := by
  rw [Datum.decimalValue]
  cases ArithExpr.decimalValue text <;> simp

/-- **Which texts have a value**, and which one: a text of digits, with or without a point, that are
not too many in all. The value is the sum of the values of the digits by their places. It is given
in lowest terms, so its denominator divides the power of ten of the digits behind the point. Every
other text is refused, where it stands. -/
theorem decimalValue_text (text : String) (location : Option Location) :
    ((∃ value, (Datum.text text).decimalValue location = .ok value) ↔
      ∃ ds es, WrittenAs text.toList ds es ∧ ds.length + es.length ≤ digitLimit) ∧
    (∀ ds es value, WrittenAs text.toList ds es →
      (Datum.text text).decimalValue location = .ok value →
        value = (ofDigits ds es).placeValue ∧ 0 < value.den ∧
          value.num.natAbs.Coprime value.den ∧ value.den ∣ 10 ^ es.length) ∧
    ((¬ ∃ value, (Datum.text text).decimalValue location = .ok value) →
      ∃ fault, (Datum.text text).decimalValue location = .error fault ∧
        fault.cls = .numberConversion ∧ fault.location? = location ∧ fault.code = "P013") := by
  refine ⟨?_, fun ds es value h hvalue => ?_, fun hnone => ?_⟩
  · simp only [decimalValue_text_eq_ok, exists_decimalValue_iff]
  · rw [decimalValue_text_eq_ok, decimalValue_of_writtenAs h] at hvalue
    split at hvalue
    · cases hvalue
    · -- the value is a rational made from a numerator and a power of ten, so it is in lowest terms
      obtain rfl := Except.ok.inj hvalue
      have hden := (ofDigits ds es).den_value_dvd
      rw [ofDigits, List.length_map] at hden
      exact ⟨value_eq_placeValue _, Rat.den_pos _, Rat.reduced _, hden⟩
  · -- what has no value has an error, and the error becomes the fault
    cases hvalue : ArithExpr.decimalValue text with
    | ok value => exact absurd ⟨value, decimalValue_text_eq_ok.2 hvalue⟩ hnone
    | error reason =>
      exact ⟨.numberConversion text reason location, by rw [Datum.decimalValue, hvalue],
        rfl, rfl, rfl⟩

/-- A literal with digits of two scripts and a zero at its end. -/
theorem decimalValue_text_scripts :
    (Datum.text "٣.50").decimalValue none = .ok (7 / 2) ∧
      (7 / 2 : Rat) = (ofDigits ['٣'] ['5', '0']).placeValue ∧ (7 / 2 : Rat).den ∣ 10 ^ 2 := by
  have hintegral : CharClass.digit.IsRun ['٣'] := by decide +kernel
  have hfractional : CharClass.digit.IsRun ['5', '0'] := by decide +kernel
  have hwritten : WrittenAs "٣.50".toList ['٣'] ['5', '0'] := .fraction hintegral hfractional
  have hvalue : (Datum.text "٣.50").decimalValue none = .ok (7 / 2) := by decide +kernel
  obtain ⟨-, hplaces, -⟩ := decimalValue_text "٣.50" none
  obtain ⟨hsum, -, -, hden⟩ := hplaces _ _ _ hwritten hvalue
  exact ⟨hvalue, hsum, hden⟩

end Datum

end ArithExpr
