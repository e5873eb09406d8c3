import Mathlib.Data.List.TakeWhile
import ArithExpr.Grammar
import ArithExpr.Proofs.Scanning

/-!
# Literals

A literal of the grammar is a list of tokens, one of the reader of numbers is a text. This module
says that the two are the same.

* `Decimal.Written` — the texts of literals: a run of digits, or two with a point between them.
* `decimalValue_written` — a written literal has a value unless it has too many digits, and nothing
  else has one.
* `Grammar.Literal.written` — what the grammar calls a literal is a written literal.
* `Phrase.Readable` — no number in a phrase has too many digits. This is what the reader of numbers
  asks for beyond the grammar.
-/

namespace ArithExpr

namespace Decimal

/-- The texts of literals. -/
inductive Written : List Char → Prop where
  | whole {cs : List Char} (digits : CharClass.digit.IsRun cs) : Written cs
  | fraction {before behind : List Char} (digits : CharClass.digit.IsRun before)
      (fractional : CharClass.digit.IsRun behind) : Written (before ++ '.' :: behind)

theorem isDecimalDigit_point : isDecimalDigit '.' = false := by
  decide

/-! ### Runs of digits -/

/-- Only characters that are digits, all of them, have digit values, and then each has one. -/
theorem digitValues?_eq_some {cs : List Char} {ds : List Nat} (h : digitValues? cs = some ds) :
    (∀ c ∈ cs, isDecimalDigit c = true) ∧ ds.length = cs.length := by
  induction cs generalizing ds with
  | nil =>
    obtain rfl := Option.some.inj h
    simp
  | cons c cs ih =>
    unfold digitValues? at h
    split at h
    · next d ds' hd hds =>
      obtain rfl := Option.some.inj h
      obtain ⟨hall, hlength⟩ := ih hds
      have hc : isDecimalDigit c = true := by rw [← isSome_digitValue?, hd]; rfl
      exact ⟨List.forall_mem_cons.2 ⟨hc, hall⟩, by simp [hlength]⟩
    · simp at h

theorem digitValues?_eq_map {cs : List Char} (h : ∀ c ∈ cs, isDecimalDigit c = true) :
    digitValues? cs = some (cs.map digitValue) := by
  induction cs with
  | nil => rfl
  | cons c cs ih =>
    obtain ⟨hc, hcs⟩ := List.forall_mem_cons.1 h
    rw [digitValues?, digitValue?_eq_some hc, ih hcs, List.map_cons]

/-- Only a run of digits makes a run of digit values. -/
theorem run?_eq_some {cs : List Char} {ds : List Nat} (h : run? cs = some ds) :
    CharClass.digit.IsRun cs ∧ ds.length = cs.length := by
  unfold run? at h
  split at h
  · simp at h
  · next hne =>
    obtain ⟨hall, hlength⟩ := digitValues?_eq_some h
    exact ⟨⟨by simpa using hne, hall⟩, hlength⟩

theorem run?_eq_map {cs : List Char} (h : CharClass.digit.IsRun cs) :
    run? cs = some (cs.map digitValue) := by
  rw [run?, if_neg (by simpa using h.1), digitValues?_eq_map h.2]

theorem countP_isRun {cs : List Char} (h : CharClass.digit.IsRun cs) :
    cs.countP isDecimalDigit = cs.length :=
  List.countP_eq_length.2 h.2

/-! ### Taking a literal apart -/

theorem ne_point_of_isRun {cs : List Char} (h : CharClass.digit.IsRun cs) :
    ∀ c ∈ cs, decide (c ≠ '.') = true := by
  intro c hc
  rw [decide_eq_true_eq]
  -- otherwise the point would be a digit
  rintro rfl
  have hdigit : isDecimalDigit '.' = true := h.2 '.' hc
  rw [isDecimalDigit_point] at hdigit
  simp at hdigit

/-- A run of digits goes up to a point behind it. -/
theorem takeWhile_point {before : List Char} (h : CharClass.digit.IsRun before)
    (behind : List Char) :
    (before ++ '.' :: behind).takeWhile (fun c => decide (c ≠ '.')) = before := by
  rw [List.takeWhile_append_of_pos (ne_point_of_isRun h)]
  exact List.append_nil before

theorem dropWhile_point {before : List Char} (h : CharClass.digit.IsRun before)
    (behind : List Char) :
    (before ++ '.' :: behind).dropWhile (fun c => decide (c ≠ '.')) = '.' :: behind := by
  rw [List.dropWhile_append_of_pos (ne_point_of_isRun h)]
  rfl

theorem dropWhile_run {cs : List Char} (h : CharClass.digit.IsRun cs) :
    cs.dropWhile (fun c => decide (c ≠ '.')) = [] :=
  List.dropWhile_eq_nil_iff.2 (ne_point_of_isRun h)

theorem ofChars?_run {cs : List Char} (h : CharClass.digit.IsRun cs) :
    ofChars? cs = (run? cs).map fun integral => ⟨integral, []⟩ := by
  rw [ofChars?, dropWhile_run h]

/-- A literal with a point is the run before it and the run behind it. -/
theorem ofChars?_fraction {before behind : List Char} (h : CharClass.digit.IsRun before) :
    ofChars? (before ++ '.' :: behind) =
      (run? before).bind fun integral => (run? behind).map fun fractional =>
        ⟨integral, fractional⟩ := by
  rw [ofChars?, dropWhile_point h]
  dsimp only
  rw [takeWhile_point h]
  cases run? before with
  | none => rfl
  | some integral => cases run? behind <;> rfl

/-- What can be taken apart is a written literal, of as many digits as it is written with. -/
theorem written_of_ofChars? {cs : List Char} {d : Decimal} (h : ofChars? cs = some d) :
    Written cs ∧ d.digitCount = cs.countP isDecimalDigit := by
  unfold ofChars? at h
  split at h
  · -- without a point all characters are one run
    obtain ⟨integral, hrun, rfl⟩ := Option.map_eq_some_iff.1 h
    obtain ⟨hcs, hlength⟩ := run?_eq_some hrun
    exact ⟨.whole hcs, by simp [digitCount, hlength, countP_isRun hcs]⟩
  · next point behind hdrop =>
    -- the text goes on with a point, and the second run is all that is behind it
    have hpoint := Lexer.head_dropWhile point (by rw [hdrop]; rfl)
    obtain rfl : point = '.' := by simpa using hpoint
    have hcs := List.takeWhile_append_dropWhile (p := fun c => decide (c ≠ '.')) (l := cs)
    rw [hdrop] at hcs
    split at h
    · next integral fractional hintegral hfractional =>
      obtain rfl := Option.some.inj h
      obtain ⟨hbefore, hlength⟩ := run?_eq_some hintegral
      obtain ⟨hbehind, hlength'⟩ := run?_eq_some hfractional
      rw [← hcs]
      refine ⟨.fraction hbefore hbehind, ?_⟩
      -- the point is no digit, so the digits are those of the two runs
      rw [List.countP_append, countP_isRun hbefore,
        List.countP_cons_of_neg (by simp [isDecimalDigit_point]), countP_isRun hbehind,
        digitCount, hlength, hlength']
    · simp at h

theorem Written.exists_ofChars? {cs : List Char} (h : Written cs) : ∃ d, ofChars? cs = some d := by
  cases h with
  | whole digits => exact ⟨_, by rw [ofChars?_run digits, run?_eq_map digits, Option.map_some]⟩
  | fraction digits fractional =>
    exact ⟨_, by rw [ofChars?_fraction digits, run?_eq_map digits, run?_eq_map fractional,
      Option.bind_some, Option.map_some]⟩

end Decimal

/-- How many characters of a text are decimal digits. -/
def digitsIn (text : String) : Nat :=
  text.toList.countP isDecimalDigit

theorem digitsIn_append (text text' : String) :
    digitsIn (text ++ text') = digitsIn text + digitsIn text' := by
  rw [digitsIn, String.toList_append, List.countP_append, digitsIn, digitsIn]

theorem digitsIn_point : digitsIn (String.singleton '.') = 0 := by
  simp [digitsIn, Decimal.isDecimalDigit_point]

/-- **What has a value** is a written literal without too many digits. -/
theorem decimalValue_eq_ok {text : String} {value : Rat} (h : decimalValue text = .ok value) :
    Decimal.Written text.toList ∧ digitsIn text ≤ digitLimit := by
  unfold decimalValue at h
  split at h
  · simp at h
  · next d hd =>
    -- the form is checked before the number of digits
    obtain ⟨hwritten, hcount⟩ := Decimal.written_of_ofChars? hd
    split at h
    · simp at h
    · next hle => exact ⟨hwritten, by rw [digitsIn, ← hcount]; omega⟩

/-- **A written literal has a value** unless it has too many digits. -/
theorem decimalValue_written {text : String} (h : Decimal.Written text.toList) :
    (digitsIn text ≤ digitLimit → ∃ value, decimalValue text = .ok value) ∧
      (digitLimit < digitsIn text → decimalValue text = .error .tooLong) := by
  -- all that can still go wrong is the number of digits
  obtain ⟨d, hd⟩ := h.exists_ofChars?
  obtain ⟨-, hcount⟩ := Decimal.written_of_ofChars? hd
  rw [← digitsIn] at hcount
  unfold decimalValue
  rw [hd, ← hcount]
  refine ⟨fun hle => ⟨d.value, ?_⟩, fun hlt => ?_⟩
  · dsimp only
    rw [if_neg (by omega)]
  · dsimp only
    rw [if_pos hlt]

namespace Number

/-- A number is read from a text that has a value, and that is its value. -/
theorem ofText_of_ok {text : String} {value : Rat} (h : decimalValue text = .ok value)
    (span : Option Span) : ofText text span = .ok ⟨text, value, span, h⟩ := by
  unfold ofText
  split
  · next value' h' =>
    obtain rfl : value' = value := Except.ok.inj (h'.symm.trans h)
    rfl
  · next reason h' => exact absurd (h'.symm.trans h) (by simp)

theorem ofText_of_error {text : String} {reason : ConversionFault}
    (h : decimalValue text = .error reason) (span : Option Span) :
    ofText text span = .error reason := by
  unfold ofText
  split
  · next value h' => exact absurd (h'.symm.trans h) (by simp)
  · next reason' h' =>
    obtain rfl : reason' = reason := Except.error.inj (h'.symm.trans h)
    rfl

end Number

namespace Grammar

theorem Literal.written {tokens : List Token} {text : String} (h : Literal tokens text)
    (hs : ∀ token ∈ tokens, token.Spelled) : Decimal.Written text.toList := by
  cases h with
  | whole kind => exact .whole ((hs _ (by simp)).digits kind)
  | @fraction integral point fractional kind pointKind fractionalKind =>
    -- the point between the two runs is spelled as one
    have hintegral := (hs integral (by simp)).digits kind
    have hfractional := (hs fractional (by simp)).digits fractionalKind
    have hpoint : point.lexeme = String.singleton '.' :=
      (hs point (by simp)).mark (by rw [pointKind]; rfl)
    rw [hpoint, String.toList_append, String.toList_append, List.append_assoc]
    exact .fraction hintegral hfractional

end Grammar

/-! ### Readable phrases -/

/-- No number in the phrase has too many digits. -/
def Phrase.Readable {l : Level} (phrase : Phrase l) : Prop :=
  ∀ text ∈ phrase.literals, digitsIn text ≤ digitLimit

/-- What a tree says is readable, since its numbers have values. -/
theorem Tree.readable_phrase {l : Level} (t : Tree l) : t.phrase.Readable := by
  induction t with
  | number a _ => simpa [Phrase.Readable, phrase, Phrase.literals] using
      (decimalValue_eq_ok a.denotes).2
  | group inner _ ih => exact ih
  | single operand _ ih => exact ih
  | link operand op rest _ ih ih' =>
    intro text hmem
    rw [phrase, Phrase.literals, List.mem_append] at hmem
    exact hmem.elim (ih text) (ih' text)

end ArithExpr
