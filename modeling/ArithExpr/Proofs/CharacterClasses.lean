import ArithExpr.Token.Basic

/-!
# No character is of two classes

White space, letters and digits are listed in three tables of ranges. No range of one table meets a
range of another one, so a character that is of a class is of no other.

* `CodeRange.apart` — says whether no range of a list meets a range of another one.
* `CharClass.of?_contains` — the class of a character is the one class that it is of.
-/

namespace ArithExpr

namespace CodeRange

/-- Says whether no range of an ascending list meets a range of another one. For each range of the
first list, the ranges of the second that end before it are done with. -/
def apart : List CodeRange → List CodeRange → Bool
  | [], _ => true
  | r :: rs, ss =>
    match ss.dropWhile fun s => decide (s.last < r.first) with
    | [] => true
    | s :: ss => decide (r.last < s.first) && apart rs (s :: ss)

theorem containing?_dropWhile {n first : Nat} {ss : List CodeRange} (hn : first ≤ n)
    (h : (containing? n ss).isSome = true) :
    (containing? n (ss.dropWhile fun s => decide (s.last < first))).isSome = true := by
  induction ss with
  | nil => exact h
  | cons s ss ih =>
    rw [List.dropWhile_cons]
    split
    · next hs =>
      rw [decide_eq_true_eq] at hs
      unfold containing? at h
      split at h
      · simp at h
      · rw [if_neg (by omega)] at h
        exact ih h
    · exact h

/-- Lists that are apart hold no code point in common. -/
theorem not_containing?_of_apart {n : Nat} {rs ss : List CodeRange} (h : apart rs ss = true)
    (hr : (containing? n rs).isSome = true) : (containing? n ss).isSome = false := by
  induction rs generalizing ss with
  | nil => simp [containing?] at hr
  | cons r rs ih =>
    by_cases hs : (containing? n ss).isSome = false
    · exact hs
    -- suppose that the second list holds the code point, too
    rw [Bool.not_eq_false] at hs
    unfold containing? at hr
    split at hr
    · simp at hr
    · next hfirst =>
      -- then it does so behind the ranges that end before the first range
      have hdrop := containing?_dropWhile (Nat.le_of_not_lt hfirst) hs
      unfold apart at h
      split at h
      · next hnil =>
        rw [hnil] at hdrop
        simp [containing?] at hdrop
      · next s ss' hcons =>
        rw [hcons] at hdrop
        simp only [Bool.and_eq_true, decide_eq_true_eq] at h
        split at hr
        · -- the code point lies before all that is left of the second list
          rw [containing?, if_pos (by omega)] at hdrop
          simp at hdrop
        · -- the code point lies behind the first range
          rw [ih h.2 hr] at hdrop
          simp at hdrop

theorem not_contain_of_apart {rs ss : List CodeRange} {c : Char} (h : apart rs ss = true)
    (hc : contain rs c = true) : contain ss c = false :=
  not_containing?_of_apart h hc

end CodeRange

theorem apart_digit_whitespace : CodeRange.apart decimalDigitRanges whitespaceRanges = true := by
  decide +kernel

theorem apart_digit_letter : CodeRange.apart decimalDigitRanges letterRanges = true := by
  decide +kernel

theorem apart_letter_whitespace : CodeRange.apart letterRanges whitespaceRanges = true := by
  decide +kernel

namespace CharClass

/-- **The classes exclude each other**: a character of a class is sorted into that class. -/
theorem of?_contains {cls : CharClass} {c : Char} (h : cls.contains c = true) :
    of? c = some cls := by
  cases cls with
  | whitespace => exact if_pos h
  | letter =>
    -- white space is asked about first
    have hspace : isWhitespace c = false :=
      CodeRange.not_contain_of_apart apart_letter_whitespace h
    have hletter : isLetter c = true := h
    simp [of?, hspace, hletter]
  | digit =>
    have hspace : isWhitespace c = false :=
      CodeRange.not_contain_of_apart apart_digit_whitespace h
    have hletter : isLetter c = false := CodeRange.not_contain_of_apart apart_digit_letter h
    have hdigit : isDecimalDigit c = true := h
    simp [of?, hspace, hletter, hdigit]

theorem isWhitespace_iff {c : Char} : isWhitespace c = true ↔ of? c = some .whitespace := by
  refine ⟨fun h => ?_, contains_of_of?⟩
  have hcontains : whitespace.contains c = true := h
  exact of?_contains hcontains

theorem eq_of_contains {cls cls' : CharClass} {c : Char} (h : cls.contains c = true)
    (h' : cls'.contains c = true) : cls = cls' :=
  Option.some.inj ((of?_contains h).symm.trans (of?_contains h'))

end CharClass

end ArithExpr
