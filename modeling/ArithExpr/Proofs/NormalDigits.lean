import Mathlib.Data.List.DropRight
import Mathlib.Data.Nat.Digits.Defs
import ArithExpr.Proofs.PlaceValue

/-!
# Literals of the same value

Zeros in front of a literal do not count, nor do zeros at the end behind its point. Nothing else can
be changed in a literal without a change of its value: two literals have the same value exactly if
they have the same digits without these zeros (`Datum.decimalValue_eq_iff`). So no literal is
rounded to the value of another.

Two literals are compared at the same number of places, with zeros put in front of the digits before
the point and behind those that are behind it. Of as many digits, no two natural numbers are written
alike; and to put in zeros until the lengths agree comes to the same as to leave all of them out.

* `Decimal.digitsOf`, `Decimal.normal` — the digits of a text, and those of them that count.
* `Decimal.natural_inj` — as many digits, of the same natural number, are the same.
* `Decimal.padded_eq_iff` — padding with zeros against leaving them out.
* `Decimal.value_eq_iff` — equal values of digits.
-/

namespace ArithExpr

namespace Decimal

/-! ### The digits that count -/

/-- The values of the digits of a text before its first point, and of those behind it. -/
def digitsOf (text : String) : Decimal :=
  ofDigits (text.toList.takeWhile (· ≠ '.')) (text.toList.dropWhile (· ≠ '.')).tail

/-- The digits without the zeros in front of those before the point and without the zeros at the end
of those behind it. -/
def normal (decimal : Decimal) : Decimal :=
  ⟨decimal.integral.dropWhile (· = 0), decimal.fractional.rdropWhile (· = 0)⟩

theorem WrittenAs.digitsOf {text : String} {ds es : List Char} (h : WrittenAs text.toList ds es) :
    digitsOf text = ofDigits ds es := by
  unfold Decimal.digitsOf
  generalize text.toList = cs at h
  cases h with
  | whole digits =>
    rw [dropWhile_run digits, List.takeWhile_eq_self_iff.2 (ne_point_of_isRun digits),
      List.tail_nil]
  | fraction digits => rw [takeWhile_point digits, dropWhile_point digits, List.tail_cons]

/-! ### Digits of the same natural number -/

theorem natural_eq_ofDigits (ds : List Nat) : natural ds = Nat.ofDigits 10 ds.reverse := by
  induction ds with
  | nil => rfl
  | cons d ds ih =>
    rw [natural_cons, ih, Nat.ofDigits_reverse_cons, Nat.add_comm, Nat.mul_comm]

/-- **As many digits of the same natural number** are the same digits. -/
theorem natural_inj {ds es : List Nat} (hlength : ds.length = es.length) (hds : ∀ d ∈ ds, d < 10)
    (hes : ∀ e ∈ es, e < 10) (h : natural ds = natural es) : ds = es := by
  rw [natural_eq_ofDigits, natural_eq_ofDigits] at h
  -- the library counts digits from the other end
  have hreverse := Nat.ofDigits_inj_of_len_eq (by decide) (by simpa using hlength)
    (fun d hd => hds d (List.mem_reverse.1 hd)) (fun e he => hes e (List.mem_reverse.1 he)) h
  exact List.reverse_injective hreverse

theorem natural_replicate_append (n : Nat) (ds : List Nat) :
    natural (List.replicate n 0 ++ ds) = natural ds := by
  rw [natural_eq_ofDigits, natural_eq_ofDigits, List.reverse_append, List.reverse_replicate,
    Nat.ofDigits_append_replicate_zero]

theorem natural_append_replicate (n : Nat) (ds : List Nat) :
    natural (ds ++ List.replicate n 0) = natural ds * 10 ^ n := by
  have hzeros : natural (List.replicate n 0 ++ []) = 0 := natural_replicate_append n []
  rw [List.append_nil] at hzeros
  rw [natural_append, List.length_replicate, hzeros, Nat.add_zero]

/-! ### Padding with zeros -/

theorem dropWhile_replicate_append (n : Nat) (ds : List Nat) :
    (List.replicate n 0 ++ ds).dropWhile (· = 0) = ds.dropWhile (· = 0) :=
  List.dropWhile_append_of_pos fun d hd => by simp [List.eq_of_mem_replicate hd]

/-- The zeros in front of digits, and the digits behind them. -/
theorem eq_replicate_append (ds : List Nat) :
    ∃ n, ds = List.replicate n 0 ++ ds.dropWhile (· = 0) := by
  -- all that is in front of the first other digit is zero
  refine ⟨(ds.takeWhile (· = 0)).length, ?_⟩
  have hzeros : ds.takeWhile (· = 0) = List.replicate (ds.takeWhile (· = 0)).length 0 :=
    List.eq_replicate_iff.2 ⟨rfl, fun d hd => by simpa using List.mem_takeWhile_imp hd⟩
  rw [← hzeros, List.takeWhile_append_dropWhile]

/-- **Padded in front** to the same length, digits are the same exactly if they are without the
zeros in front. -/
theorem padded_eq_iff (ds es : List Nat) :
    List.replicate es.length 0 ++ ds = List.replicate ds.length 0 ++ es ↔
      ds.dropWhile (· = 0) = es.dropWhile (· = 0) := by
  constructor
  · intro h
    -- zeros in front are dropped on both sides, whatever their number
    rw [← dropWhile_replicate_append es.length ds, h, dropWhile_replicate_append]
  · intro h
    obtain ⟨m, hds⟩ := eq_replicate_append ds
    obtain ⟨n, hes⟩ := eq_replicate_append es
    -- both end in the same digits, with as many zeros in front
    rw [← h] at hes
    generalize ds.dropWhile (· = 0) = rest at hds hes
    have hzeros : es.length + m = ds.length + n := by
      rw [hds, hes, List.length_append, List.length_append, List.length_replicate,
        List.length_replicate]
      omega
    calc List.replicate es.length 0 ++ ds
        = List.replicate (es.length + m) 0 ++ rest := by
          rw [hds, ← List.append_assoc, List.replicate_append_replicate]
      _ = List.replicate (ds.length + n) 0 ++ rest := by rw [hzeros]
      _ = List.replicate ds.length 0 ++ es := by
          rw [hes, ← List.append_assoc, List.replicate_append_replicate]

/-- **Padded at the end** to the same length, digits are the same exactly if they are without the
zeros at the end. -/
theorem padded_behind_eq_iff (ds es : List Nat) :
    ds ++ List.replicate es.length 0 = es ++ List.replicate ds.length 0 ↔
      ds.rdropWhile (· = 0) = es.rdropWhile (· = 0) := by
  -- the same, read backwards
  have h := padded_eq_iff ds.reverse es.reverse
  rw [List.length_reverse, List.length_reverse] at h
  rw [← List.reverse_inj, List.reverse_append, List.reverse_append, List.reverse_replicate,
    List.reverse_replicate, h, List.rdropWhile, List.rdropWhile, List.reverse_inj]

/-! ### Digits of the same value -/

/-- The digits of a decimal, padded to the places of another. -/
def padded (a b : Decimal) : List Nat :=
  (List.replicate b.integral.length 0 ++ a.integral) ++
    (a.fractional ++ List.replicate b.fractional.length 0)

theorem natural_padded (a b : Decimal) :
    natural (a.padded b) =
      natural (a.integral ++ a.fractional) * 10 ^ b.fractional.length := by
  rw [padded, List.append_assoc, natural_replicate_append, ← List.append_assoc,
    natural_append_replicate]

/-- Values are compared at the same number of places. -/
theorem value_eq_iff_padded (a b : Decimal) :
    a.value = b.value ↔ natural (a.padded b) = natural (b.padded a) := by
  -- no power of ten is zero, so the fractions may be multiplied out
  have hpow : ∀ n, Nat.pow 10 n ≠ 0 := fun n => (Nat.pow_pos (by decide)).ne'
  rw [value, value, Rat.mkRat_eq_iff (hpow _) (hpow _), natural_padded, natural_padded]
  norm_cast

/-- **Equal values**: digits denote the same number exactly if those of them that count are the
same. -/
theorem value_eq_iff {a b : Decimal} (ha : ∀ d ∈ a.padded b, d < 10)
    (hb : ∀ d ∈ b.padded a, d < 10) : a.value = b.value ↔ a.normal = b.normal := by
  -- padded, both have as many digits in front of the point, and as many behind it
  have hlength : (a.padded b).length = (b.padded a).length := by
    simp only [padded, List.length_append, List.length_replicate]
    omega
  have hintegral : (List.replicate b.integral.length 0 ++ a.integral).length =
      (List.replicate a.integral.length 0 ++ b.integral).length := by
    simp only [List.length_append, List.length_replicate]
    omega
  calc a.value = b.value
      ↔ natural (a.padded b) = natural (b.padded a) := value_eq_iff_padded a b
    _ ↔ a.padded b = b.padded a := ⟨natural_inj hlength ha hb, congrArg natural⟩
    _ ↔ List.replicate b.integral.length 0 ++ a.integral =
            List.replicate a.integral.length 0 ++ b.integral ∧
          a.fractional ++ List.replicate b.fractional.length 0 =
            b.fractional ++ List.replicate a.fractional.length 0 :=
        ⟨fun h => List.append_inj h hintegral, fun ⟨h, h'⟩ => by rw [padded, h, h', padded]⟩
    _ ↔ a.normal = b.normal := by
        rw [padded_eq_iff, padded_behind_eq_iff, normal, normal, Decimal.mk.injEq]

/-- The digits of texts are less than ten, and so is a zero. -/
theorem padded_ofDigits_lt_ten (ds es ds' es' : List Char) :
    ∀ d ∈ (ofDigits ds es).padded (ofDigits ds' es'), d < 10 := by
  intro d hd
  simp only [padded, ofDigits, List.mem_append, List.mem_replicate, List.mem_map] at hd
  -- a digit of either part, or a zero that was added
  rcases hd with (⟨-, rfl⟩ | ⟨c, -, rfl⟩) | (⟨c, -, rfl⟩ | ⟨-, rfl⟩)
  · decide
  · exact digitValue_lt_ten c
  · exact digitValue_lt_ten c
  · decide

end Decimal

open Decimal

theorem decimalValue_eq_value {text : String} {value : Rat} (h : decimalValue text = .ok value) :
    value = (digitsOf text).value := by
  -- what has a value is a literal, and its digits are those of the text
  obtain ⟨ds, es, hwritten, hle⟩ := exists_decimalValue_iff.1 ⟨value, h⟩
  rw [decimalValue_of_writtenAs hwritten, if_neg (Nat.not_lt_of_le hle)] at h
  rw [hwritten.digitsOf]
  exact (Except.ok.inj h).symm

namespace Datum

/-- **No rounding, no collisions.** Two texts that have values have the same value exactly if their
digits are the same, but for zeros in front of those before the point and at the end of those behind
it. It does not matter which scripts the digits are of, or whether there is a point at all. -/
theorem decimalValue_eq_iff {s t : String} {place place' : Option Location} {q r : Rat}
    (hs : (Datum.text s).decimalValue place = .ok q)
    (ht : (Datum.text t).decimalValue place' = .ok r) :
    q = r ↔ (digitsOf s).normal = (digitsOf t).normal := by
  rw [decimalValue_text_eq_ok] at hs ht
  rw [decimalValue_eq_value hs, decimalValue_eq_value ht]
  exact value_eq_iff (padded_ofDigits_lt_ten _ _ _ _) (padded_ofDigits_lt_ten _ _ _ _)

/-- Zeros in front and at the end, digits of another script. -/
theorem decimalValue_eq_iff_scripts :
    (Datum.text "007.50").decimalValue none = .ok (15 / 2) ∧
      (Datum.text "٧.5").decimalValue none = .ok (15 / 2) ∧
      (digitsOf "007.50").normal = (digitsOf "٧.5").normal := by
  -- both values are found by evaluation
  have hs : (Datum.text "007.50").decimalValue none = .ok (15 / 2) := by decide +kernel
  have ht : (Datum.text "٧.5").decimalValue none = .ok (15 / 2) := by decide +kernel
  exact ⟨hs, ht, (decimalValue_eq_iff hs ht).1 rfl⟩

example : (digitsOf "007.50").normal = ⟨[7], [5]⟩ := by decide +kernel

end Datum

end ArithExpr
